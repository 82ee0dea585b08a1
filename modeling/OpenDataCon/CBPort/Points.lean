import Mathlib.Data.Nat.Basic

/-!
# Times and points

A time is a number of milliseconds in a 64-bit word. `convertCBTimeToHMSMSEC`
gives the time of day; on days of 24 hours its four fields are plain quotients
and remainders (`convertCBTimeToHMSMSEC_eq`).

A point carries its place in the scan of a group and its last value. A binary
point also remembers changes: a momentary contact keeps a change status until
it is read.
-/

set_option autoImplicit false

namespace OpenDataCon.CBPort

/-! ## Times -/

/-- The time of day. -/
structure HMSMSEC where
  hour : Nat
  min : Nat
  sec : Nat
  msec : Nat
deriving DecidableEq, Repr

def convertCBTimeToHMSMSEC (dtime : Nat) : HMSMSEC :=
  let days := dtime / 1000 / 60 / 60 / 24
  let longHour := dtime / 1000 / 60 / 60 % 24
  let remainder := dtime - 1000 * 60 * 60 * longHour - 1000 * 60 * 60 * 24 * days
  { hour := longHour
    min := remainder / 1000 / 60 % 60
    sec := remainder / 1000 % 60
    msec := remainder % 1000 }

def hoursMinutesHaveChanged (oldtime newtime : Nat) : Bool :=
  let old := convertCBTimeToHMSMSEC oldtime
  let new := convertCBTimeToHMSMSEC newtime
  old.hour != new.hour || old.min != new.min

theorem convertCBTimeToHMSMSEC_eq (dtime : Nat) :
    convertCBTimeToHMSMSEC dtime =
      { hour := dtime / 3600000 % 24, min := dtime / 60000 % 60, sec := dtime / 1000 % 60
        msec := dtime % 1000 } := by
  have remainder : dtime - 1000 * 60 * 60 * (dtime / 1000 / 60 / 60 % 24) -
      1000 * 60 * 60 * 24 * (dtime / 1000 / 60 / 60 / 24) = dtime % 3600000 := by omega
  simp only [convertCBTimeToHMSMSEC, remainder, HMSMSEC.mk.injEq]
  refine ⟨?_, ?_, ?_, ?_⟩ <;> omega

/-! ## Points -/

inductive BinaryPointType where
  | DIG | MCA | MCB | MCC | BINCONTROL
deriving DecidableEq, Repr

inductive AnalogCounterPointType where
  | ANA | ANA6 | ACC12 | ACC24 | ANACONTROL
deriving DecidableEq, Repr

inductive PayloadABType where
  | PositionA | PositionB | Error
deriving DecidableEq, Repr

/-- The packet (1 to 16) and the section of a point in the answer to a scan. -/
structure PayloadLocationType where
  packet : Nat := 0
  position : PayloadABType := .Error
deriving DecidableEq, Repr

structure CBBinaryPoint where
  index : Nat := 0
  group : Nat := 0
  channel : Nat := 0
  payloadLocation : PayloadLocationType := {}
  changedTime : Nat := 0
  hasBeenSet : Bool := false
  binary : Bool := true
  changed : Bool := true
  momentaryChangeStatus : Bool := false
  pointType : BinaryPointType := .DIG
  soePoint : Bool := false
  soeIndex : Nat := 0
deriving DecidableEq, Repr, Inhabited

structure CBAnalogCounterPoint where
  index : Nat := 0
  group : Nat := 0
  channel : Nat := 0
  payloadLocation : PayloadLocationType := {}
  changedTime : Nat := 0
  hasBeenSet : Bool := false
  analog : Nat := 0
  pointType : AnalogCounterPointType := .ANA
deriving DecidableEq, Repr, Inhabited

namespace CBBinaryPoint

def setBinary (point : CBBinaryPoint) (b : Bool) (ctime : Nat) : CBBinaryPoint :=
  { point with
    hasBeenSet := true
    changedTime := ctime
    momentaryChangeStatus :=
      point.momentaryChangeStatus ||
        (point.pointType == .MCA && !point.binary && b) ||
        (point.pointType == .MCB && point.binary && !b) ||
        (point.pointType == .MCC && point.changed && point.binary != b)
    changed := point.binary != b
    binary := b }

/-- Read the value and the change status; reading clears both change marks. -/
def getBinaryAndMCFlagWithFlagReset (point : CBBinaryPoint) : CBBinaryPoint × Bool × Bool :=
  ({ point with changed := false, momentaryChangeStatus := false }, point.binary,
    point.momentaryChangeStatus)

def getAndResetChangedFlag (point : CBBinaryPoint) : CBBinaryPoint × Bool :=
  ({ point with changed := false }, point.changed)

/-- The value fields are as when the point was made. -/
def resetBinary (point : CBBinaryPoint) : CBBinaryPoint :=
  { point with
    changedTime := 0
    hasBeenSet := false
    binary := true
    changed := true
    momentaryChangeStatus := false }

section Fields

variable (point : CBBinaryPoint) (b : Bool) (ctime : Nat)

@[simp] theorem setBinary_binary : (point.setBinary b ctime).binary = b := rfl

@[simp] theorem setBinary_changedTime : (point.setBinary b ctime).changedTime = ctime := rfl

@[simp] theorem setBinary_hasBeenSet : (point.setBinary b ctime).hasBeenSet = true := rfl

@[simp] theorem setBinary_index : (point.setBinary b ctime).index = point.index := rfl

@[simp] theorem setBinary_group : (point.setBinary b ctime).group = point.group := rfl

@[simp] theorem setBinary_pointType : (point.setBinary b ctime).pointType = point.pointType := rfl

@[simp] theorem setBinary_soePoint : (point.setBinary b ctime).soePoint = point.soePoint := rfl

@[simp] theorem setBinary_soeIndex : (point.setBinary b ctime).soeIndex = point.soeIndex := rfl

end Fields

end CBBinaryPoint

namespace CBAnalogCounterPoint

def setAnalog (point : CBAnalogCounterPoint) (a : Nat) (ctime : Nat) : CBAnalogCounterPoint :=
  { point with hasBeenSet := true, analog := a, changedTime := ctime }

/-- The value of a point without data is zero. -/
def resetAnalog (point : CBAnalogCounterPoint) : CBAnalogCounterPoint :=
  { point with hasBeenSet := false, analog := 0, changedTime := 0 }

end CBAnalogCounterPoint

end OpenDataCon.CBPort
