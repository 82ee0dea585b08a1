import Mathlib.Data.List.GetD
import Mathlib.Data.Rat.Cast.Defs
import OpenDataCon.FileTransfer.Events
import OpenDataCon.Foundations.Exceptions

/-!
# The stack of a Lua state

A C function and Lua hand each other values over a stack. Values are found by their
position, which counts from the top when it is negative, and from the bottom when it
is not, so a position from the top names another value after each push, and one from the
bottom does not (`At.push`).

Integers have 64 bits, and a table is a finite map. A check on the way back from Lua is a
fetched field of the right kind (`fetch`).
-/

set_option autoImplicit false

namespace OpenDataCon.LuaWrappers

open Exceptions
open FileTransfer (Bytes ascii toDecimal)

/-! ## Values -/

/-- The floating-point numbers: a float is a double that comes back as itself. -/
class Floats (D F : Type) where
  widen : F → D
  narrow : D → F
  narrow_widen : ∀ value : F, narrow (widen value) = value

/-- What Lua makes of a number where a number of another kind or a string is asked for. -/
class LuaNumbers (D : Type) where
  ofInteger : BitVec 64 → D
  /-- The number that a string spells. -/
  ofString : Bytes → Option D
  toString : D → Bytes

/-- Rationals do for examples. -/
instance : Floats ℚ ℚ where
  widen := id
  narrow := id
  narrow_widen := fun _ => rfl

instance : LuaNumbers ℚ where
  ofInteger := fun value => value.toInt
  ofString := fun _ => none
  toString := fun _ => []

inductive LuaValue (D : Type) where
  | nil
  | boolean (value : Bool)
  | integer (value : BitVec 64)
  | number (value : D)
  | string (text : Bytes)
  | table (fields : List (Bytes × LuaValue D))
  | function

namespace LuaValue

variable {D : Type}

def isTable : LuaValue D → Bool
  | .table _ => true
  | _ => false

def isBoolean : LuaValue D → Bool
  | .boolean _ => true
  | _ => false

def isInteger : LuaValue D → Bool
  | .integer _ => true
  | _ => false

/-- A number is a string to Lua. -/
def isString : LuaValue D → Bool
  | .string _ => true
  | .integer _ => true
  | .number _ => true
  | _ => false

/-- And so is a string a number, when it spells one. -/
def isNumber [LuaNumbers D] : LuaValue D → Bool
  | .integer _ => true
  | .number _ => true
  | .string text => (LuaNumbers.ofString text : Option D).isSome
  | _ => false

def toBoolean : LuaValue D → Bool
  | .nil => false
  | .boolean value => value
  | _ => true

/-- `lua_tointeger`, which is only called on integers. -/
def toInteger : LuaValue D → BitVec 64
  | .integer value => value
  | _ => 0

/-- `lua_tonumber`, which is only called on numbers. -/
def toNumber [LuaNumbers D] : LuaValue D → D
  | .integer value => LuaNumbers.ofInteger value
  | .number value => value
  | .string text => (LuaNumbers.ofString text).getD (LuaNumbers.ofInteger 0)
  | _ => LuaNumbers.ofInteger 0

/-- The characters of a string, or of a number. -/
def text [LuaNumbers D] : LuaValue D → Bytes
  | .string text => text
  | .integer value =>
    if 0 ≤ value.toInt then toDecimal value.toInt.toNat
    else ascii "-" ++ toDecimal (-value.toInt).toNat
  | .number value => LuaNumbers.toString value
  | _ => []

/-- A field of a table: one that was not set is nil. -/
def field (key : String) : LuaValue D → LuaValue D
  | .table fields => (fields.lookup (ascii key)).getD .nil
  | _ => .nil

end LuaValue

/-! ## The stack -/

variable {D : Type}

/-- The values of a running function, the top first. -/
abbrev LuaStack (D : Type) := List (LuaValue D)

namespace LuaStack

/-- The value at a position. Below the arguments is the function that runs. -/
def value (stack : LuaStack D) : Int → LuaValue D
  | .ofNat 0 => .nil
  | .ofNat (height + 1) => stack.reverse.getD height .nil
  | .negSucc depth => stack.getD depth .function

/-- `lua_settable` of the table below a key and a value. -/
def setTable : LuaStack D → LuaStack D
  | value :: .string key :: .table fields :: below => .table ((key, value) :: fields) :: below
  | stack => stack

@[simp] theorem value_top (top : LuaValue D) (stack : LuaStack D) :
    value (top :: stack) (-1) = top :=
  rfl

/-- A value is at a height above the bottom. -/
def At (stack : LuaStack D) (height : Nat) (held : LuaValue D) : Prop :=
  stack.reverse[height]? = some held

theorem At.value {stack : LuaStack D} {height : Nat} {held : LuaValue D}
    (place : At stack height held) : value stack (height + 1 : Nat) = held := by
  change stack.reverse.getD height .nil = held
  rw [List.getD_eq_getElem?_getD, place]
  rfl

/-- **A height stays with its value.** -/
theorem At.push {stack : LuaStack D} {height : Nat} {held : LuaValue D}
    (place : At stack height held) (top : LuaValue D) : At (top :: stack) height held := by
  have inside : height < stack.reverse.length := (List.getElem?_eq_some_iff.mp place).1
  rw [At, List.reverse_cons, List.getElem?_append_left inside]
  exact place

/-- A table at a position is at the height that the position has from the bottom. -/
theorem At.of_table {stack : LuaStack D} {idx : Int} {fields : List (Bytes × LuaValue D)}
    (place : stack.value idx = .table fields) :
    ∃ height : Nat, At stack height (.table fields) ∧
      (if idx < 0 then stack.length + (idx + 1) else idx) = (height + 1 : Nat) := by
  match idx with
  | .ofNat 0 => cases place
  | .ofNat (height + 1) =>
      change stack.reverse.getD height .nil = .table fields at place
      rw [List.getD_eq_getElem?_getD] at place
      refine ⟨height, ?_, ?_⟩
      · cases found : stack.reverse[height]? with
        | none => rw [found] at place; cases place
        | some held => rw [found] at place; cases place; exact found
      · exact if_neg (Int.not_lt.mpr (Int.natCast_nonneg _))
  | .negSucc depth =>
      change stack.getD depth .function = .table fields at place
      by_cases inside : depth < stack.length
      · rw [List.getD_eq_getElem _ _ inside] at place
        refine ⟨stack.length - 1 - depth, ?_, ?_⟩
        · rw [At, List.getElem?_reverse (by omega), List.getElem?_eq_some_iff]
          refine ⟨by omega, ?_⟩
          rw [← place]
          congr 1
          omega
        · rw [if_pos (Int.negSucc_lt_zero depth), Int.negSucc_eq]
          omega
      · rw [List.getD_eq_default _ _ (by omega)] at place
        cases place

end LuaStack

/-! ## C functions -/

/-- A C function: what it throws, or returns, and the stack it leaves. -/
abbrev LuaM (D : Type) := ExceptT Thrown (StateM (LuaStack D))

namespace LuaM

variable {α β : Type}

/-- What a function does on a stack. -/
def on (action : LuaM D α) (stack : LuaStack D) : Except Thrown α × LuaStack D :=
  StateT.run (ExceptT.run action) stack

/-- A function returns a value on a stack, whatever it leaves on it. -/
def Returns (action : LuaM D α) (stack : LuaStack D) (value : α) : Prop :=
  ∃ left, on action stack = (.ok value, left)

/-- The value at a position. -/
def valueAt (idx : Int) : LuaM D (LuaValue D) := do
  let stack : LuaStack D ← get
  return stack.value idx

def push (value : LuaValue D) : LuaM D Unit := modify fun stack : LuaStack D => value :: stack

/-- `lua_settable` of the table below a key and a value. -/
def setTable : LuaM D Unit := modify LuaStack.setTable

/-- A key and a value are pushed and set in the table below them. -/
def setField (key : String) (value : LuaValue D) : LuaM D Unit := do
  push (.string (ascii key))
  push value
  setTable

/-- `lua_tolstring` of the top, where a number becomes a string. -/
def toLString [LuaNumbers D] : LuaM D Bytes := do
  let text := (← valueAt (-1)).text
  modify fun stack : LuaStack D => .string text :: stack.tail
  return text

/-- `lua_getfield`. -/
def getField (idx : Int) (key : String) : LuaM D Unit :=
  modify fun stack : LuaStack D => (stack.value idx).field key :: stack

/-- A check of the value on the top, and what is thrown when it fails. -/
def expect (check : LuaValue D → Bool) (err : String) : LuaM D Unit := do
  unless check (← valueAt (-1)) do
    throw (.invalidArgument err)

/-- A field is fetched from the table at a position, and checked. -/
def fetch (idx : Int) (key : String) (check : LuaValue D → Bool) (err : String) : LuaM D Unit := do
  getField idx key
  expect check err

@[simp] theorem on_pure (value : α) (stack : LuaStack D) :
    on (pure value) stack = (.ok value, stack) :=
  rfl

theorem on_bind (action : LuaM D α) (next : α → LuaM D β) (stack : LuaStack D) :
    on (action >>= next) stack =
      match on action stack with
      | (.ok value, left) => on (next value) left
      | (.error thrown, left) => (.error thrown, left) := by
  change StateT.run (ExceptT.run action >>= ExceptT.bindCont next) stack = _
  rw [StateT.run_bind]
  change StateT.run (ExceptT.bindCont next (on action stack).1) (on action stack).2 = _
  rcases on action stack with ⟨_ | _, left⟩ <;> rfl

/-- A function that returns goes on with the next. -/
theorem on_bind_ok {action : LuaM D α} {stack left : LuaStack D} {value : α}
    (returns : on action stack = (.ok value, left)) (next : α → LuaM D β) :
    on (action >>= next) stack = on (next value) left := by
  rw [on_bind, returns]

theorem Returns.bind {action : LuaM D α} {next : α → LuaM D β} {stack left : LuaStack D}
    {value : α} {result : β} (first : on action stack = (.ok value, left))
    (rest : Returns (next value) left result) : Returns (action >>= next) stack result := by
  obtain ⟨after, returns⟩ := rest
  exact ⟨after, (on_bind_ok first next).trans returns⟩

/-- What is caught does not matter where nothing is thrown. -/
theorem on_tryCatch_ok {action : LuaM D α} {stack left : LuaStack D} {value : α}
    (returns : on action stack = (.ok value, left)) (handler : Thrown → LuaM D α) :
    on (tryCatch action handler) stack = (.ok value, left) := by
  have whole : StateT.run (m := Id) (ExceptT.run action) stack = (.ok value, left) := returns
  change StateT.run (m := Id) (ExceptT.run (ExceptT.tryCatch action handler)) stack = _
  unfold ExceptT.tryCatch
  change StateT.run (m := Id) (ExceptT.run action >>= _) stack = _
  rw [StateT.run_bind, whole]
  rfl

theorem on_get (stack : LuaStack D) : on get stack = (.ok stack, stack) := rfl

@[simp] theorem on_valueAt (idx : Int) (stack : LuaStack D) :
    on (valueAt idx) stack = (.ok (stack.value idx), stack) :=
  rfl

@[simp] theorem on_getField (idx : Int) (key : String) (stack : LuaStack D) :
    on (getField idx key) stack = (.ok (), (stack.value idx).field key :: stack) :=
  rfl

@[simp] theorem on_push (value : LuaValue D) (stack : LuaStack D) :
    on (push value) stack = (.ok (), value :: stack) :=
  rfl

@[simp] theorem on_setTable (value : LuaValue D) (key : Bytes) (fields : List (Bytes × LuaValue D))
    (below : LuaStack D) :
    on setTable (value :: .string key :: .table fields :: below) =
      (.ok (), .table ((key, value) :: fields) :: below) :=
  rfl

@[simp] theorem on_setField (key : String) (value : LuaValue D)
    (fields : List (Bytes × LuaValue D)) (below : LuaStack D) :
    on (setField key value) (.table fields :: below) =
      (.ok (), .table ((ascii key, value) :: fields) :: below) :=
  rfl

@[simp] theorem on_toLString [LuaNumbers D] (top : LuaValue D) (below : LuaStack D) :
    on toLString (top :: below) = (.ok top.text, .string top.text :: below) :=
  rfl

end LuaM

end OpenDataCon.LuaWrappers
