import OpenDataCon.Events.Decimals
import OpenDataCon.Events.EventInfo
import OpenDataCon.Foundations.FlagTranslation
import OpenDataCon.Foundations.Separators

/-!
# Events as texts

The values of an enumeration have names, and so has each quality flag. A name is read
back as its value (`eventTypeFromString_toString`, `controlCodeFromString_toString`,
`connectStateFromString_toString`). A text that is no name is read as a value that stands for
that. The text of a quality has the names of its flags between bars, and the flags
whose names occur in it are read back (`qualityFlagsFromString_toString`).
-/

set_option autoImplicit false

namespace OpenDataCon.Events

open Connectors (EventType QualityFlag QualityFlags)
open Exceptions
open FileTransfer (Bytes ascii toDecimal)
open FlagTranslation
open Separators

/-! ## Enumerations -/

/-- The bar that stands around names and sections. -/
def bar : UInt8 := 0x7C

def noString : Bytes := ascii "<no_string_representation>"

/-- `ToString` of an enumeration with names for some values. -/
def enumString {w : Nat} (names : List (BitVec w × String)) (value : BitVec w) : Bytes :=
  ((names.lookup value).map ascii).getD noString

/-- The value of a name of an enumeration, or another value where there is none. -/
def enumFromString {w : Nat} (names : List (BitVec w × String)) (other : BitVec w)
    (text : Bytes) : BitVec w :=
  ((names.find? fun name => text = ascii name.2).map Prod.fst).getD other

/-- A value has the text of what has none, or its name. -/
theorem enumString_cases {w : Nat} (names : List (BitVec w × String)) (value : BitVec w) :
    enumString names value = noString ∨
      ∃ name, (value, name) ∈ names ∧ enumString names value = ascii name := by
  unfold enumString
  cases found : names.lookup value with
  | none => exact .inl rfl
  | some name =>
      obtain ⟨before, after, whole, -⟩ := List.lookup_eq_some_iff.mp found
      refine .inr ⟨name, ?_, rfl⟩
      rw [whole]
      exact List.mem_append_right before List.mem_cons_self

/-- A text is a name of an enumeration, or it is read as another value. -/
theorem enumFromString_cases {w : Nat} (names : List (BitVec w × String))
    (other : BitVec w) (text : Bytes) :
    (∃ name, (enumFromString names other text, name) ∈ names ∧ text = ascii name) ∨
      enumFromString names other text = other := by
  unfold enumFromString
  cases found : names.find? fun name => text = ascii name.2 with
  | none => exact .inr rfl
  | some pair =>
      have named := List.find?_some found
      rw [decide_eq_true_iff] at named
      exact .inl ⟨pair.2, List.mem_of_find?_eq_some found, named⟩

def eventTypeName : EventType → String
  | .Binary => "Binary"
  | .DoubleBitBinary => "DoubleBitBinary"
  | .Analog => "Analog"
  | .Counter => "Counter"
  | .FrozenCounter => "FrozenCounter"
  | .BinaryOutputStatus => "BinaryOutputStatus"
  | .AnalogOutputStatus => "AnalogOutputStatus"
  | .BinaryCommandEvent => "BinaryCommandEvent"
  | .AnalogCommandEvent => "AnalogCommandEvent"
  | .OctetString => "OctetString"
  | .TimeAndInterval => "TimeAndInterval"
  | .SecurityStat => "SecurityStat"
  | .ControlRelayOutputBlock => "ControlRelayOutputBlock"
  | .AnalogOutputInt16 => "AnalogOutputInt16"
  | .AnalogOutputInt32 => "AnalogOutputInt32"
  | .AnalogOutputFloat32 => "AnalogOutputFloat32"
  | .AnalogOutputDouble64 => "AnalogOutputDouble64"
  | .BinaryQuality => "BinaryQuality"
  | .DoubleBitBinaryQuality => "DoubleBitBinaryQuality"
  | .AnalogQuality => "AnalogQuality"
  | .CounterQuality => "CounterQuality"
  | .BinaryOutputStatusQuality => "BinaryOutputStatusQuality"
  | .FrozenCounterQuality => "FrozenCounterQuality"
  | .AnalogOutputStatusQuality => "AnalogOutputStatusQuality"
  | .FileAuth => "FileAuth"
  | .FileCommand => "FileCommand"
  | .FileCommandStatus => "FileCommandStatus"
  | .FileTransport => "FileTransport"
  | .FileTransportStatus => "FileTransportStatus"
  | .FileDescriptor => "FileDescriptor"
  | .FileSpecString => "FileSpecString"
  | .ConnectState => "ConnectState"
  | .Reserved1 => "Reserved1"
  | .Reserved2 => "Reserved2"
  | .Reserved3 => "Reserved3"
  | .Reserved4 => "Reserved4"
  | .Reserved5 => "Reserved5"
  | .Reserved6 => "Reserved6"
  | .Reserved7 => "Reserved7"
  | .Reserved8 => "Reserved8"
  | .Reserved9 => "Reserved9"
  | .Reserved10 => "Reserved10"
  | .Reserved11 => "Reserved11"
  | .Reserved12 => "Reserved12"

def eventTypeToString (type : BitVec 8) : Bytes :=
  ((named type).map fun name => ascii (eventTypeName name)).getD noString

/-- The types up to `AfterRange` are tried in turn, and `AfterRange` itself is what is left. -/
def eventTypeFromString (StrEventType : Bytes) : BitVec 8 :=
  (((List.range 45).map fun before => BitVec.ofNat 8 (before + 1)).find? fun type =>
    StrEventType = eventTypeToString type).getD AfterRange

def controlCodeNames : List (BitVec 8 × String) :=
  [(1#8, "NUL"), (3#8, "PULSE_ON"), (5#8, "PULSE_OFF"), (7#8, "LATCH_ON"), (9#8, "LATCH_OFF"),
    (11#8, "CLOSE_PULSE_ON"), (13#8, "TRIP_PULSE_ON"), (15#8, "UNDEFINED")]

def controlCodeToString (code : BitVec 8) : Bytes := enumString controlCodeNames code

def controlCodeFromString : Bytes → BitVec 8 :=
  enumFromString [(11#8, "CLOSE_PULSE_ON"), (9#8, "LATCH_OFF"), (7#8, "LATCH_ON"), (1#8, "NUL"),
    (5#8, "PULSE_OFF"), (3#8, "PULSE_ON"), (13#8, "TRIP_PULSE_ON")] 15#8

def connectStateNames : List (BitVec 32 × String) :=
  [(0#32, "PORT_UP"), (1#32, "CONNECTED"), (2#32, "DISCONNECTED"), (3#32, "PORT_DOWN")]

def connectStateToString (state : BitVec 32) : Bytes := enumString connectStateNames state

def connectStateFromString : Bytes → BitVec 32 :=
  enumFromString [(1#32, "CONNECTED"), (2#32, "DISCONNECTED"), (3#32, "PORT_DOWN"),
    (0#32, "PORT_UP")] 4#32

theorem mem_eventTypes (type : EventType) : type ∈ eventTypes := by cases type <;> decide

theorem eventTypeNames_nodup : (eventTypes.map fun type => ascii (eventTypeName type)).Nodup := by
  decide +kernel

theorem noString_not_name (type : EventType) : ascii (eventTypeName type) ≠ noString := by
  have apart : ∀ type ∈ eventTypes, ascii (eventTypeName type) ≠ noString := by
    decide +kernel
  exact apart type (mem_eventTypes type)

/-- A type is known by its text. -/
theorem eq_of_eventTypeToString {value : BitVec 8} {type : EventType}
    (same : ascii (eventTypeName type) = eventTypeToString value) : value = number type := by
  unfold eventTypeToString at same
  cases known : named value with
  | none =>
      rw [known] at same
      exact absurd same (noString_not_name type)
  | some name =>
      rw [known] at same
      have equal : type = name :=
        List.inj_on_of_nodup_map eventTypeNames_nodup (mem_eventTypes type) (mem_eventTypes name)
          same
      rw [equal, number_of_named known]

theorem eventTypeToString_number (type : EventType) :
    eventTypeToString (number type) = ascii (eventTypeName type) := by
  rw [eventTypeToString, named_number]
  rfl

/-- Among the numbers tried, the type is the one with its text. -/
theorem find_eventType {type : EventType} {tried : List (BitVec 8)} (among : number type ∈ tried) :
    (tried.find? fun value => ascii (eventTypeName type) = eventTypeToString value) =
      some (number type) := by
  cases found : tried.find? fun value => ascii (eventTypeName type) = eventTypeToString value with
  | none =>
      have missed := List.find?_eq_none.mp found (number type) among
      rw [decide_eq_true_iff] at missed
      exact absurd (eventTypeToString_number type).symm missed
  | some value =>
      have picks := List.find?_some found
      rw [decide_eq_true_iff] at picks
      rw [eq_of_eventTypeToString picks]

/-- **The name of an event type is read back as the type.** -/
theorem eventTypeFromString_toString (type : EventType) :
    eventTypeFromString (eventTypeToString (number type)) = number type := by
  have place : eventTypes.idxOf type < 44 := List.idxOf_lt_length_of_mem (mem_eventTypes type)
  have among : number type ∈ (List.range 45).map fun before => BitVec.ofNat 8 (before + 1) :=
    List.mem_map.mpr ⟨eventTypes.idxOf type, List.mem_range.mpr (by omega), rfl⟩
  rw [eventTypeToString_number, eventTypeFromString, find_eventType among, Option.getD_some]

/-- The control codes that are read. -/
def controlCodes : List (BitVec 8) := [1#8, 3#8, 5#8, 7#8, 9#8, 11#8, 13#8]

theorem controlCodeFromString_toString {code : BitVec 8} (read : code ∈ controlCodes) :
    controlCodeFromString (controlCodeToString code) = code := by
  simp only [controlCodes, List.mem_cons, List.not_mem_nil, or_false] at read
  rcases read with rfl | rfl | rfl | rfl | rfl | rfl | rfl <;> decide

/-- Every other control code is read as undefined. -/
theorem controlCodeFromString_of_unread {code : BitVec 8} (unread : code ∉ controlCodes) :
    controlCodeFromString (controlCodeToString code) = 15#8 := by
  rcases enumString_cases controlCodeNames code with none | ⟨name, member, text⟩
  · rw [controlCodeToString, none]
    decide
  · rw [controlCodeToString, text]
    simp only [controlCodes, List.mem_cons, List.not_mem_nil, or_false, not_or] at unread
    simp only [controlCodeNames, List.mem_cons, Prod.mk.injEq, List.not_mem_nil, or_false, unread,
      false_and, false_or] at member
    rw [member.2]
    decide

theorem bar_not_in_controlCode (code : BitVec 8) : bar ∉ controlCodeToString code := by
  rcases enumString_cases controlCodeNames code with none | ⟨name, member, text⟩
  · rw [controlCodeToString, none]
    decide
  · rw [controlCodeToString, text]
    simp only [controlCodeNames, List.mem_cons, Prod.mk.injEq, List.not_mem_nil, or_false] at member
    rcases member with ⟨-, rfl⟩ | ⟨-, rfl⟩ | ⟨-, rfl⟩ | ⟨-, rfl⟩ | ⟨-, rfl⟩ | ⟨-, rfl⟩ | ⟨-, rfl⟩ |
      ⟨-, rfl⟩ <;> decide

/-- The connection states with names. -/
def connectStates : List (BitVec 32) := [0#32, 1#32, 2#32, 3#32]

theorem connectStateFromString_toString {state : BitVec 32} (known : state ∈ connectStates) :
    connectStateFromString (connectStateToString state) = state := by
  simp only [connectStates, List.mem_cons, List.not_mem_nil, or_false] at known
  rcases known with rfl | rfl | rfl | rfl <;> decide

/-- Every other connection state is read as undefined. -/
theorem connectStateFromString_of_unknown {state : BitVec 32} (unknown : state ∉ connectStates) :
    connectStateFromString (connectStateToString state) = 4#32 := by
  rcases enumString_cases connectStateNames state with none | ⟨name, member, text⟩
  · rw [connectStateToString, none]
    decide
  · simp only [connectStates, List.mem_cons, List.not_mem_nil, or_false, not_or] at unknown
    simp only [connectStateNames, List.mem_cons, Prod.mk.injEq, List.not_mem_nil, or_false,
      unknown, false_and] at member

/-! ## Qualities -/

def flags : List QualityFlag :=
  [.ONLINE, .RESTART, .COMM_LOST, .REMOTE_FORCED, .LOCAL_FORCED, .OVERRANGE, .REFERENCE_ERR,
    .ROLLOVER, .DISCONTINUITY, .CHATTER_FILTER]

def flagName : QualityFlag → Bytes
  | .ONLINE => ascii "ONLINE"
  | .RESTART => ascii "RESTART"
  | .COMM_LOST => ascii "COMM_LOST"
  | .REMOTE_FORCED => ascii "REMOTE_FORCED"
  | .LOCAL_FORCED => ascii "LOCAL_FORCED"
  | .OVERRANGE => ascii "OVERRANGE"
  | .REFERENCE_ERR => ascii "REFERENCE_ERR"
  | .ROLLOVER => ascii "ROLLOVER"
  | .DISCONTINUITY => ascii "DISCONTINUITY"
  | .CHATTER_FILTER => ascii "CHATTER_FILTER"

/-- The flags of a quality. -/
def flagsOf (q : QualityFlags) : List QualityFlag := flags.filter fun flag => q.getLsbD flag.place

def qualityFlagsToString (q : QualityFlags) : Bytes :=
  let s := bar :: ((flagsOf q).map flagName).flatMap fun name => name ++ [bar]
  if s = [bar] then ascii "|NONE|" else s

/-- The flags whose names occur. -/
def qualityFlagsFromString (StrQuality : Bytes) : QualityFlags :=
  mask 16 QualityFlag.place (flags.filter fun flag => flagName flag <:+: StrQuality)

theorem mem_flags (flag : QualityFlag) : flag ∈ flags := by cases flag <;> decide

theorem mem_flagsOf {q : QualityFlags} {flag : QualityFlag} :
    flag ∈ flagsOf q ↔ q.getLsbD flag.place = true := by
  rw [flagsOf, List.mem_filter]
  exact and_iff_right (mem_flags flag)

theorem bar_not_in_name (flag : QualityFlag) : bar ∉ flagName flag := by cases flag <;> decide

theorem flagName_ne_nil (flag : QualityFlag) : flagName flag ≠ [] := by cases flag <;> decide

/-- No name occurs in another. -/
theorem flagName_infix {flag other : QualityFlag} (inside : flagName flag <:+: flagName other) :
    flag = other := by
  have apart : ∀ flag ∈ flags, ∀ other ∈ flags, flagName flag <:+: flagName other →
      flag = other := by
    decide +kernel
  exact apart flag (mem_flags flag) other (mem_flags other) inside

/-- The names in the text of a quality are those of its flags. -/
theorem infix_toString_iff {q : QualityFlags} {flag : QualityFlag} :
    flagName flag <:+: qualityFlagsToString q ↔ q.getLsbD flag.place = true := by
  have closed : flagName flag <:+:
      bar :: ((flagsOf q).map flagName).flatMap (fun name => name ++ [bar]) ↔
      flag ∈ flagsOf q := by
    rw [← List.nil_append (bar :: _),
      infix_append_iff (bar_not_in_name flag) (flagName_ne_nil flag),
      infix_closed_iff (bar_not_in_name flag) (flagName_ne_nil flag)]
    constructor
    · rintro (empty | ⟨name, member, inside⟩)
      · exact absurd (List.eq_nil_of_infix_nil empty) (flagName_ne_nil flag)
      · obtain ⟨other, held, rfl⟩ := List.mem_map.mp member
        exact flagName_infix inside ▸ held
    · intro held
      exact .inr ⟨flagName flag, List.mem_map_of_mem held, List.infix_refl _⟩
  by_cases empty : bar :: ((flagsOf q).map flagName).flatMap (fun name => name ++ [bar]) = [bar]
  · rw [qualityFlagsToString, if_pos empty]
    have noFlag : flag ∉ flagsOf q := by
      rw [← closed, empty]
      intro inside
      obtain ⟨symbol, member⟩ := List.exists_mem_of_ne_nil _ (flagName_ne_nil flag)
      have same : symbol = bar := List.mem_singleton.mp (inside.subset member)
      exact bar_not_in_name flag (same ▸ member)
    have none : ¬ flagName flag <:+: ascii "|NONE|" := by cases flag <;> decide
    exact iff_of_false none fun set => noFlag (mem_flagsOf.mpr set)
  · rw [qualityFlagsToString, if_neg empty]
    exact closed.trans mem_flagsOf

/-- **The text of a quality is read back**, when only flags with names are set. -/
theorem qualityFlagsFromString_toString {q : QualityFlags} (defined : q.toNat < 2 ^ 10) :
    qualityFlagsFromString (qualityFlagsToString q) = q := by
  refine ext_of_set fun k small => ?_
  rw [qualityFlagsFromString, getLsbD_mask small]
  constructor
  · rintro ⟨flag, member, rfl⟩
    exact infix_toString_iff.mp (of_decide_eq_true (List.mem_filter.mp member).2)
  · intro set
    have low : k < 10 := by
      by_contra high
      rw [BitVec.getLsbD, Nat.testBit_lt_two_pow
        (defined.trans_le (Nat.pow_le_pow_right (by decide) (by omega)))] at set
      cases set
    obtain ⟨flag, rfl⟩ : ∃ flag : QualityFlag, flag.place = k := by
      interval_cases k
      · exact ⟨.ONLINE, rfl⟩
      · exact ⟨.RESTART, rfl⟩
      · exact ⟨.COMM_LOST, rfl⟩
      · exact ⟨.REMOTE_FORCED, rfl⟩
      · exact ⟨.LOCAL_FORCED, rfl⟩
      · exact ⟨.OVERRANGE, rfl⟩
      · exact ⟨.REFERENCE_ERR, rfl⟩
      · exact ⟨.ROLLOVER, rfl⟩
      · exact ⟨.DISCONTINUITY, rfl⟩
      · exact ⟨.CHATTER_FILTER, rfl⟩
    exact ⟨flag, List.mem_filter.mpr ⟨mem_flags flag, decide_eq_true (infix_toString_iff.mpr set)⟩,
      rfl⟩

end OpenDataCon.Events
