import Mathlib.Data.List.Basic

/-!
# Analog and counter points of MD3

Analogs and counters are kept in separate maps, each by an index made of the module
address and the channel, and by the index of opendatacon. A point has a value, and
the value that was last read from it. `Slot` names a place in either map.

The points are fixed once the table is loaded: no function adds or removes one, and
each changes only the slots it names (`modify`). What a slot without a point reads is
the fault value, 0x8000 (`value`, `lastRead`), and so does every point that was just
loaded (`value_load`, `lastRead_load`). When communications are lost, only analogs are reset
(`value_setAllPointsQualityToCommsLost`).
-/

set_option autoImplicit false

namespace OpenDataCon.MD3Port

/-- Counters and analogs are kept in separate maps. -/
inductive AnalogCounterModuleType where
  | counterModule | analogModule
deriving DecidableEq, Repr

/-- A point, with its index of opendatacon. -/
structure MD3AnalogCounterPoint where
  index : Nat
  analog : BitVec 16 := 0x8000#16
  lastReadAnalog : BitVec 16 := 0x8000#16
  hasBeenSet : Bool := false
deriving DecidableEq, Repr

namespace MD3AnalogCounterPoint

/-- The change since the last read. -/
def delta (pt : MD3AnalogCounterPoint) : Int :=
  (pt.analog.toNat : Int) - (pt.lastReadAnalog.toNat : Int)

def setLastReadAnalog (pt : MD3AnalogCounterPoint) (a : BitVec 16) : MD3AnalogCounterPoint :=
  { pt with lastReadAnalog := a }

/-- The value, the change since the last read, and the point as read. -/
def getAnalogAndDelta (pt : MD3AnalogCounterPoint) : BitVec 16 × Int × MD3AnalogCounterPoint :=
  (pt.analog, pt.delta, pt.setLastReadAnalog pt.analog)

def setAnalog (pt : MD3AnalogCounterPoint) (a : BitVec 16) : MD3AnalogCounterPoint :=
  { pt with hasBeenSet := true, analog := a }

def resetAnalog (pt : MD3AnalogCounterPoint) : MD3AnalogCounterPoint :=
  { pt with hasBeenSet := false, analog := 0x8000#16 }

end MD3AnalogCounterPoint

/-- A place in the table. -/
structure Slot where
  kind : AnalogCounterModuleType
  md3index : Nat
deriving DecidableEq, Repr

/-- Channels above 7 are those of the next module. -/
def calcAnalogCounterMD3Index (module channel : Nat) : Nat :=
  if 7 < channel then (module + 1) % 256 * 256 + (channel - 8) else module % 256 * 256 + channel

/-- The maps of the analogs and of the counters, by the MD3 index and by the index of
opendatacon, and the MD3 indexes that are in use. -/
structure AnalogTable where
  points : Slot → Option MD3AnalogCounterPoint := fun _ => none
  odcPoints : AnalogCounterModuleType → Nat → Option Nat := fun _ _ => none
  keys : AnalogCounterModuleType → List Nat := fun _ => []

namespace AnalogTable

/-- Change the point in a slot, if there is one. -/
def modify (table : AnalogTable) (slot : Slot)
    (change : MD3AnalogCounterPoint → MD3AnalogCounterPoint) : AnalogTable :=
  { table with
    points := fun s => if s = slot then (table.points s).map change else table.points s }

/-! ## Loading -/

/-- A point of the configuration. -/
structure PointEntry where
  kind : AnalogCounterModuleType
  index : Nat
  moduleaddress : Nat
  channel : Nat
deriving DecidableEq, Repr

/-- A point whose MD3 index or opendatacon index is in use is not added. -/
def addPoint (table : AnalogTable) (entry : PointEntry) : AnalogTable :=
  let slot : Slot := ⟨entry.kind, calcAnalogCounterMD3Index entry.moduleaddress entry.channel⟩
  if (table.points slot).isSome || (table.odcPoints entry.kind entry.index).isSome then table
  else
    { points := fun s => if s = slot then some { index := entry.index } else table.points s
      odcPoints := fun kind index =>
        if kind = entry.kind ∧ index = entry.index then some slot.md3index
        else table.odcPoints kind index
      keys := fun kind =>
        if kind = entry.kind then table.keys kind ++ [slot.md3index] else table.keys kind }

def load (entries : List PointEntry) : AnalogTable := entries.foldl addPoint {}

/-! ## Reading and setting -/

/-- What a slot reads: a point that does not exist has the fault value. -/
def value (table : AnalogTable) (slot : Slot) : BitVec 16 :=
  match table.points slot with
  | none => 0x8000#16
  | some pt => pt.analog

/-- The value that was last read from a slot. -/
def lastRead (table : AnalogTable) (slot : Slot) : BitVec 16 :=
  match table.points slot with
  | none => 0x8000#16
  | some pt => pt.lastReadAnalog

section Access

variable (table : AnalogTable) (kind : AnalogCounterModuleType)

/-- The value, and whether it has been set. -/
def getValueUsingMD3Index (module channel : Nat) : Option (BitVec 16 × Bool) :=
  (table.points ⟨kind, calcAnalogCounterMD3Index module channel⟩).map
    fun pt => (pt.analog, pt.hasBeenSet)

/-- The value and its change, and the table in which it has been read. -/
def getValueAndChangeUsingMD3Index (module channel : Nat) :
    Option (BitVec 16 × Int) × AnalogTable :=
  let slot : Slot := ⟨kind, calcAnalogCounterMD3Index module channel⟩
  ((table.points slot).map fun pt => (pt.getAnalogAndDelta.1, pt.getAnalogAndDelta.2.1),
    table.modify slot fun pt => pt.getAnalogAndDelta.2.2)

def setValueUsingMD3Index (module channel : Nat) (meas : BitVec 16) : AnalogTable :=
  table.modify ⟨kind, calcAnalogCounterMD3Index module channel⟩ fun pt => pt.setAnalog meas

/-- Change the point with an index of opendatacon. -/
def modifyUsingODCIndex (index : Nat) (change : MD3AnalogCounterPoint → MD3AnalogCounterPoint) :
    AnalogTable :=
  match table.odcPoints kind index with
  | none => table
  | some md3index => table.modify ⟨kind, md3index⟩ change

end Access

section Members

variable (table : AnalogTable)

def getCounterValueUsingMD3Index (module channel : Nat) : Option (BitVec 16 × Bool) :=
  table.getValueUsingMD3Index .counterModule module channel

def getAnalogValueUsingMD3Index (module channel : Nat) : Option (BitVec 16 × Bool) :=
  table.getValueUsingMD3Index .analogModule module channel

def getCounterValueAndChangeUsingMD3Index (module channel : Nat) :
    Option (BitVec 16 × Int) × AnalogTable :=
  table.getValueAndChangeUsingMD3Index .counterModule module channel

def getAnalogValueAndChangeUsingMD3Index (module channel : Nat) :
    Option (BitVec 16 × Int) × AnalogTable :=
  table.getValueAndChangeUsingMD3Index .analogModule module channel

def setCounterValueUsingMD3Index (module channel : Nat) (meas : BitVec 16) : AnalogTable :=
  table.setValueUsingMD3Index .counterModule module channel meas

def setAnalogValueUsingMD3Index (module channel : Nat) (meas : BitVec 16) : AnalogTable :=
  table.setValueUsingMD3Index .analogModule module channel meas

def setCounterValueUsingODCIndex (index : Nat) (meas : BitVec 16) : AnalogTable :=
  table.modifyUsingODCIndex .counterModule index fun pt => pt.setAnalog meas

def setAnalogValueUsingODCIndex (index : Nat) (meas : BitVec 16) : AnalogTable :=
  table.modifyUsingODCIndex .analogModule index fun pt => pt.setAnalog meas

def resetAnalogValueUsingODCIndex (index : Nat) : AnalogTable :=
  table.modifyUsingODCIndex .analogModule index MD3AnalogCounterPoint.resetAnalog

/-- The index of a counter is looked up among the analogs. -/
def resetCounterValueUsingODCIndex (index : Nat) : AnalogTable :=
  table.modifyUsingODCIndex .analogModule index MD3AnalogCounterPoint.resetAnalog

/-- Reset the points of one kind, each by the index it has. -/
def resetEach (reset : AnalogTable → Nat → AnalogTable) (kind : AnalogCounterModuleType) :
    AnalogTable :=
  (table.keys kind).foldl
    (fun t md3index =>
      match t.points ⟨kind, md3index⟩ with
      | none => t
      | some pt => reset t pt.index) table

def setAllPointsQualityToCommsLost : AnalogTable :=
  (table.resetEach resetAnalogValueUsingODCIndex .analogModule).resetEach
    resetCounterValueUsingODCIndex .counterModule

end Members

/-! ## Changing a point -/

section Changing

variable (table : AnalogTable) (slot : Slot)
  (change : MD3AnalogCounterPoint → MD3AnalogCounterPoint)

theorem points_modify (s : Slot) :
    (table.modify slot change).points s =
      if s = slot then (table.points s).map change else table.points s :=
  rfl

theorem points_modify_of_ne {s : Slot} (other : s ≠ slot) :
    (table.modify slot change).points s = table.points s :=
  if_neg other

@[simp] theorem isSome_modify (s : Slot) :
    ((table.modify slot change).points s).isSome = (table.points s).isSome := by
  rw [points_modify]
  split
  · exact Option.isSome_map
  · rfl

theorem value_modify_of_ne {s : Slot} (other : s ≠ slot) :
    (table.modify slot change).value s = table.value s := by
  rw [value, value, points_modify_of_ne _ _ _ other]

theorem lastRead_modify_of_ne {s : Slot} (other : s ≠ slot) :
    (table.modify slot change).lastRead s = table.lastRead s := by
  rw [lastRead, lastRead, points_modify_of_ne _ _ _ other]

/-- A change that keeps what was last read keeps it in every slot. -/
theorem lastRead_modify (keeps : ∀ pt, (change pt).lastReadAnalog = pt.lastReadAnalog) (s : Slot) :
    (table.modify slot change).lastRead s = table.lastRead s := by
  by_cases same : s = slot
  · subst same
    rw [lastRead, lastRead, points_modify, if_pos rfl]
    cases table.points s with
    | none => rfl
    | some pt => exact keeps pt
  · exact lastRead_modify_of_ne _ _ _ same

theorem isSome_modifyUsingODCIndex (kind : AnalogCounterModuleType) (index : Nat) (s : Slot) :
    ((table.modifyUsingODCIndex kind index change).points s).isSome = (table.points s).isSome := by
  rw [modifyUsingODCIndex]
  split
  · rfl
  · exact isSome_modify _ _ _ _

theorem lastRead_modifyUsingODCIndex
    (keeps : ∀ pt, (change pt).lastReadAnalog = pt.lastReadAnalog)
    (kind : AnalogCounterModuleType) (index : Nat) (s : Slot) :
    (table.modifyUsingODCIndex kind index change).lastRead s = table.lastRead s := by
  rw [modifyUsingODCIndex]
  split
  · rfl
  · exact lastRead_modify _ _ _ keeps _

theorem value_modifyUsingODCIndex {kind : AnalogCounterModuleType} (index : Nat) {s : Slot}
    (other : s.kind ≠ kind) :
    (table.modifyUsingODCIndex kind index change).value s = table.value s := by
  rw [modifyUsingODCIndex]
  split
  · rfl
  · exact value_modify_of_ne _ _ _ fun same => other (congrArg Slot.kind same)

end Changing

/-! ## Loaded tables -/

/-- Nothing has been read or set. -/
def Fresh (table : AnalogTable) : Prop :=
  ∀ slot, table.value slot = 0x8000#16 ∧ table.lastRead slot = 0x8000#16

theorem Fresh.addPoint {table : AnalogTable} (fresh : table.Fresh) (entry : PointEntry) :
    (table.addPoint entry).Fresh := by
  intro slot
  unfold AnalogTable.addPoint
  dsimp only
  split
  · exact fresh slot
  · by_cases same : slot =
        ⟨entry.kind, calcAnalogCounterMD3Index entry.moduleaddress entry.channel⟩
    · simp [value, lastRead, same]
    · simpa [value, lastRead, same] using fresh slot

theorem load_fresh (entries : List PointEntry) : (load entries).Fresh := by
  have run : ∀ table : AnalogTable, table.Fresh →
      (entries.foldl AnalogTable.addPoint table).Fresh := by
    induction entries with
    | nil => exact fun table fresh => fresh
    | cons entry rest ih => exact fun table fresh => ih _ (fresh.addPoint entry)
  exact run {} fun slot => ⟨rfl, rfl⟩

@[simp] theorem value_load (entries : List PointEntry) (slot : Slot) :
    (load entries).value slot = 0x8000#16 :=
  (load_fresh entries slot).1

@[simp] theorem lastRead_load (entries : List PointEntry) (slot : Slot) :
    (load entries).lastRead slot = 0x8000#16 :=
  (load_fresh entries slot).2

/-! ## Communications lost -/

/-- What holds of the table and is kept by each reset holds when each point has been
reset. -/
theorem resetEach_induction (holds : AnalogTable → Prop) {table : AnalogTable}
    {reset : AnalogTable → Nat → AnalogTable} (start : holds table)
    (kept : ∀ t index, holds t → holds (reset t index)) (kind : AnalogCounterModuleType) :
    holds (table.resetEach reset kind) := by
  have run : ∀ (keys : List Nat) (t : AnalogTable), holds t →
      holds (keys.foldl
        (fun t md3index =>
          match t.points ⟨kind, md3index⟩ with
          | none => t
          | some pt => reset t pt.index) t) := by
    intro keys
    induction keys with
    | nil => exact fun t held => held
    | cons key rest ih =>
        intro t held
        rw [List.foldl_cons]
        apply ih
        split
        · exact held
        · exact kept _ _ held
  exact run _ _ start

section CommsLost

variable (table : AnalogTable) (slot : Slot)

@[simp] theorem isSome_setAllPointsQualityToCommsLost :
    (table.setAllPointsQualityToCommsLost.points slot).isSome = (table.points slot).isSome := by
  let kept : AnalogTable → Prop := fun t => (t.points slot).isSome = (table.points slot).isSome
  refine resetEach_induction kept (resetEach_induction kept rfl ?_ _) ?_ _
  · exact fun t index held => (isSome_modifyUsingODCIndex _ _ _ _ _).trans held
  · exact fun t index held => (isSome_modifyUsingODCIndex _ _ _ _ _).trans held

/-- **Counters keep their values when communications are lost.** -/
theorem value_setAllPointsQualityToCommsLost (counter : slot.kind = .counterModule) :
    table.setAllPointsQualityToCommsLost.value slot = table.value slot := by
  have other : slot.kind ≠ .analogModule := by simp [counter]
  let kept : AnalogTable → Prop := fun t => t.value slot = table.value slot
  refine resetEach_induction kept (resetEach_induction kept rfl ?_ _) ?_ _
  · exact fun t index held => (value_modifyUsingODCIndex _ _ _ other).trans held
  · exact fun t index held => (value_modifyUsingODCIndex _ _ _ other).trans held

end CommsLost

end AnalogTable

end OpenDataCon.MD3Port
