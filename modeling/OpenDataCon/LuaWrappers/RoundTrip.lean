import OpenDataCon.LuaWrappers.IOTypeWrappers

/-!
# Events go to Lua and back

An event with a payload comes back from its table as it was, wherever the table is on
the stack (`eventInfoFromLua_returns`). The function of Lua that combines quality flags returns
a number of the type of the event types, of 8 bits: the flags of the two highest
places are lost (`events_and_flags_iff`).
-/

set_option autoImplicit false

namespace OpenDataCon.LuaWrappers

open Connectors (QualityFlags)
open Events
open Exceptions
open FileTransfer (Bytes ascii)
open LuaM
open LuaStack (At)

variable {D F : Type}

/-! ## Fields -/

theorem on_getField_table {stack : LuaStack D} {height : Nat}
    {fields : List (Bytes × LuaValue D)} {key : String} {value : LuaValue D}
    (place : At stack height (.table fields)) (found : fields.lookup (ascii key) = some value) :
    on (getField (height + 1 : Nat) key) stack = (.ok (), value :: stack) := by
  rw [on_getField, place.value, LuaValue.field, found]
  rfl

theorem on_integerField {stack : LuaStack D} {height : Nat}
    {fields : List (Bytes × LuaValue D)} {key : String} {value : BitVec 64}
    (place : At stack height (.table fields))
    (found : fields.lookup (ascii key) = some (.integer value)) :
    on (integerField (height + 1 : Nat) key) stack =
      (.ok (some value), .integer value :: stack) := by
  rw [integerField, on_bind_ok (on_getField_table place found)]
  rfl

theorem on_stringField [LuaNumbers D] {stack : LuaStack D} {height : Nat}
    {fields : List (Bytes × LuaValue D)} {key : String} {text : Bytes}
    (place : At stack height (.table fields))
    (found : fields.lookup (ascii key) = some (.string text)) :
    on (stringField (height + 1 : Nat) key) stack =
      (.ok (some (text.takeWhile (· ≠ 0))), .string text :: stack) := by
  rw [stringField, on_bind_ok (on_getField_table place found)]
  rfl

/-! ## Quality flags -/

section Flags

variable (D)

/-- The loop of `odc.QualityFlags`, from the top of the stack down to the first value that is
no integer. -/
def combineFlags {D : Type} : LuaStack D → QualityFlags → QualityFlags
  | value :: below, qual =>
    if value.isInteger then combineFlags below (qual ||| value.toInteger.setWidth 16) else qual
  -- below the arguments is the function
  | [], qual => qual

/-- `odc.QualityFlags`: what it combines is cut to the type of the event types. -/
def qualityFlags : LuaM D Unit := do
  let stack : LuaStack D ← get
  let qual := combineFlags stack Connectors.QualityFlags.NONE
  push (unsigned (qual.setWidth 8))

/-- The stack of a call with flags. -/
def arguments (flags : List QualityFlags) : LuaStack D := (flags.map unsigned).reverse

/-- All flags of a list. -/
def union (flags : List QualityFlags) : QualityFlags := flags.foldr (· ||| ·) 0

/-- A call with flags returns them all. -/
def Combines (flags : List QualityFlags) : Prop :=
  on (qualityFlags D) (arguments D flags) = (.ok (), unsigned (union flags) :: arguments D flags)

variable {D}

theorem combineFlags_unsigned (flags : List QualityFlags) (qual : QualityFlags) :
    combineFlags (flags.map unsigned : LuaStack D) qual = flags.foldl (· ||| ·) qual := by
  induction flags generalizing qual with
  | nil => rfl
  | cons flag rest ih =>
      have reads : combineFlags ((flag :: rest).map unsigned : LuaStack D) qual =
          combineFlags (rest.map unsigned) (qual ||| (flag.setWidth 64).setWidth 16) := rfl
      rw [reads, narrow_unsigned flag (by decide), ih, List.foldl_cons]

/-- The loop combines all arguments, the last first. -/
theorem combineFlags_arguments (flags : List QualityFlags) :
    combineFlags (arguments D flags) Connectors.QualityFlags.NONE = union flags := by
  rw [arguments, ← List.map_reverse, combineFlags_unsigned, List.foldl_reverse, union]
  congr 1
  funext flag others
  exact BitVec.or_comm others flag

/-- The integers of two numbers are equal when the numbers are. -/
theorem unsigned_inj {v w : Nat} {left : BitVec v} {right : BitVec w} (small : v ≤ 64)
    (fits : w ≤ 64) :
    (unsigned left : LuaValue D) = unsigned right ↔ left.toNat = right.toNat := by
  have bounded : left.toNat < 2 ^ 64 := left.isLt.trans_le (Nat.pow_le_pow_right (by decide) small)
  have within : right.toNat < 2 ^ 64 := right.isLt.trans_le (Nat.pow_le_pow_right (by decide) fits)
  unfold unsigned
  rw [LuaValue.integer.injEq, ← BitVec.toNat_inj, BitVec.toNat_setWidth, BitVec.toNat_setWidth,
    Nat.mod_eq_of_lt bounded, Nat.mod_eq_of_lt within]

theorem combines_iff (flags : List QualityFlags) :
    Combines D flags ↔ (union flags).toNat < 2 ^ 8 := by
  have returns : on (qualityFlags D) (arguments D flags) =
      (.ok (), unsigned ((union flags).setWidth 8) :: arguments D flags) := by
    rw [← combineFlags_arguments (D := D)]
    rfl
  rw [Combines, returns, Prod.mk.injEq, List.cons.injEq, unsigned_inj (by decide) (by decide),
    BitVec.toNat_setWidth]
  constructor
  · intro same
    exact Nat.mod_eq_iff_lt (by decide) |>.mp same.2.1
  · intro small
    exact ⟨rfl, Nat.mod_eq_of_lt small, rfl⟩

end Flags

/-! ## Events -/

variable [Floats D F]

/-- What an event with a payload is in Lua. -/
def eventTable (event : EventInfo D F) (payload : Payload D F) : LuaValue D :=
  .table [(ascii "Payload", luaValue payload),
    (ascii "Timestamp", unsigned event.timestamp),
    (ascii "QualityFlags", unsigned event.quality),
    (ascii "SourcePort", .string (event.sourcePort.takeWhile (· ≠ 0))),
    (ascii "Index", unsigned event.index),
    (ascii "EventType", unsigned event.type)]

theorem on_pushEventInfo {event : EventInfo D F} {payload : Payload D F}
    (carries : event.payload = some payload) (below : LuaStack D) :
    on (pushEventInfo event) below = (.ok (), eventTable event payload :: below) := by
  have pushes : pushPayloadOf event = pushPayload payload := by
    unfold pushPayloadOf
    rw [event.typed payload carries, carries]
  unfold pushEventInfo
  rw [pushes]
  simp only [on_bind, on_push, on_setField, on_pushPayload, on_setTable]
  rfl

variable [LuaNumbers D]

/-- An event without its payload is completed by the payload. -/
theorem popPayloadOf_returns {start event : EventInfo D F} {payload : Payload D F}
    (carries : event.payload = some payload) (type : start.type = event.type)
    (index : start.index = event.index) (sourcePort : start.sourcePort = event.sourcePort)
    (quality : start.quality = event.quality) (timestamp : start.timestamp = event.timestamp)
    (below : LuaStack D) :
    Returns (popPayloadOf start) (luaValue payload :: below) event := by
  have matching : payloadType start.type = some payload.type := by
    rw [type]
    exact event.typed payload carries
  obtain ⟨left, popped⟩ := popPayload_returns payload below
  obtain ⟨set, sets, sameType, sameIndex, sameSource, sameQuality, sameTime, held⟩ :=
    EventInfo.setPayload_of_type matching
  have whole : set = event :=
    EventInfo.ext (sameType.trans type) (sameIndex.trans index) (sameSource.trans sourcePort)
      (sameQuality.trans quality) (sameTime.trans timestamp) (held.trans carries.symm)
  unfold popPayloadOf
  rw [matching]
  refine Returns.bind popped ?_
  rw [sets, whole]
  exact ⟨_, rfl⟩

/-- **An event comes back from its table**, at any position. -/
theorem eventInfoFromLua_returns [Zero D] [Zero F] {event : EventInfo D F} {payload : Payload D F}
    (carries : event.payload = some payload) (nulFree : 0 ∉ event.sourcePort) (now : BitVec 64)
    {stack : LuaStack D} {idx : Int} (found : stack.value idx = eventTable event payload) :
    Returns (eventInfoFromLua now idx) stack (some event) := by
  obtain ⟨height, place, absolute⟩ := At.of_table found
  have whole : event.sourcePort.takeWhile (· ≠ 0) = event.sourcePort :=
    List.takeWhile_eq_self_iff.mpr fun byte member => by
      rw [decide_eq_true_iff]
      rintro rfl
      exact nulFree member
  have isTable : (stack.value (height + 1 : Nat)).isTable = true := by
    rw [place.value]
    rfl
  unfold eventInfoFromLua
  refine Returns.bind (on_get stack) ?_
  rw [absolute, if_pos isTable]
  refine Returns.bind (on_integerField place rfl) ?_
  refine Returns.bind (on_integerField (place.push _) rfl) ?_
  refine Returns.bind (on_stringField ((place.push _).push _) rfl) ?_
  refine Returns.bind (on_integerField (((place.push _).push _).push _) rfl) ?_
  refine Returns.bind (on_integerField ((((place.push _).push _).push _).push _) rfl) ?_
  refine Returns.bind (on_getField_table (((((place.push _).push _).push _).push _).push _) rfl) ?_
  let start : EventInfo D F := {
    type := (event.type.setWidth 64).setWidth 8
    index := event.index.setWidth 64
    sourcePort := (event.sourcePort.takeWhile (· ≠ 0)).takeWhile (· ≠ 0)
    quality := (event.quality.setWidth 64).setWidth 16
    timestamp := event.timestamp.setWidth 64 }
  obtain ⟨left, popped⟩ := @popPayloadOf_returns D F _ _ start event payload carries
    (narrow_unsigned event.type (by decide)) (BitVec.setWidth_eq _)
    ((congrArg _ whole).trans whole) (narrow_unsigned event.quality (by decide))
    (BitVec.setWidth_eq _) _
  refine Returns.bind (on_tryCatch_ok popped _) ?_
  exact ⟨_, rfl⟩

/-- An event goes to Lua as a table and comes back from there. -/
def ComesBack [Zero D] [Zero F] (event : EventInfo D F) : Prop :=
  ∃ table : LuaValue D, (∀ below, on (pushEventInfo event) below = (.ok (), table :: below)) ∧
    ∀ now stack idx, LuaStack.value stack idx = table →
      Returns (eventInfoFromLua now idx) stack (some event)

theorem comesBack [Zero D] [Zero F] {event : EventInfo D F} (carries : event.payload.isSome)
    (nulFree : 0 ∉ event.sourcePort) : ComesBack event := by
  obtain ⟨payload, held⟩ := Option.isSome_iff_exists.mp carries
  exact ⟨eventTable event payload, on_pushEventInfo held,
    fun now stack idx found => eventInfoFromLua_returns held nulFree now found⟩

/-! ## Events and flags -/

/-- **Events come back from Lua, and the flags of a call do when none has a place past the
eighth.** -/
theorem events_and_flags_iff [Zero D] [Zero F] {event : EventInfo D F}
    (carries : event.payload.isSome) (nulFree : 0 ∉ event.sourcePort)
    (flags : List QualityFlags) :
    (ComesBack event ∧ Combines D flags) ↔ (union flags).toNat < 2 ^ 8 := by
  rw [combines_iff]
  exact and_iff_right (comesBack carries nulFree)

/-- An event of an analog output with a float, two quality flags and a negative value. -/
def outputEvent : EventInfo ℚ ℚ where
  type := number .AnalogOutputFloat32
  index := 7#64
  sourcePort := ascii "Port"
  quality := 257#16
  timestamp := 2 ^ 63
  payload := some (.AOF (-1 / 2) 3#8)
  typed := by
    rintro value ⟨⟩
    decide

theorem outputEvent_and_online :
    (ComesBack outputEvent ∧ Combines ℚ [1#16, 2#16]) ↔ (union [1#16, 2#16]).toNat < 2 ^ 8 :=
  events_and_flags_iff rfl (by decide) [1#16, 2#16]

/-- The flag of a discontinuity is lost. -/
theorem discontinuity_lost : ¬ Combines ℚ [1#16, 256#16] := by
  rw [combines_iff]
  decide

end OpenDataCon.LuaWrappers
