import Mathlib.Data.List.Sort
import OpenDataCon.Connectors.CommsLost
import OpenDataCon.MD3Port.AnalogPoints
import OpenDataCon.MD3Port.DigitalPoints

/-!
# The point table when communications are lost

The loops over the points of a table go through its maps by MD3 index. A `PointTable` has the
binary points, and the analog points and counters with the times at which they were set. Loading
enters each point under its MD3 index and under its index of opendatacon, and changes of values
leave them there (`AnalogTable.load_indexed`, `AnalogTable.Indexed.modify`).

A counter is reset by its index, which is looked up among the analog points.
-/

set_option autoImplicit false

namespace OpenDataCon.MD3Port

open Connectors IndexedChanges

/-! ## Tables whose indexes agree -/

namespace AnalogTable

/-- The keys are those of the points, and a point is found by the index it has. -/
structure Indexed (table : AnalogTable) : Prop where
  apart : ∀ kind, (table.keys kind).Nodup
  listed : ∀ kind md3index, md3index ∈ table.keys kind ↔ (table.points ⟨kind, md3index⟩).isSome
  found : ∀ kind index md3index, table.odcPoints kind index = some md3index ↔
    ∃ pt, table.points ⟨kind, md3index⟩ = some pt ∧ pt.index = index

variable {table : AnalogTable}

theorem indexed_empty : Indexed {} :=
  ⟨fun _ => List.nodup_nil, fun _ _ => by simp, fun _ _ _ => by simp⟩

/-- A point entered in a slot that is free, under an index that is free. -/
def enter (table : AnalogTable) (slot : Slot) (index : Nat) : AnalogTable where
  points s := if s = slot then some { index := index } else table.points s
  odcPoints kind other :=
    if kind = slot.kind ∧ other = index then some slot.md3index else table.odcPoints kind other
  keys kind := if kind = slot.kind then table.keys kind ++ [slot.md3index] else table.keys kind

theorem addPoint_eq (table : AnalogTable) (entry : PointEntry) :
    table.addPoint entry = table ∨ ∃ slot index, table.points slot = none ∧
      table.odcPoints slot.kind index = none ∧ table.addPoint entry = table.enter slot index := by
  unfold AnalogTable.addPoint
  dsimp only
  split
  · exact .inl rfl
  · next free =>
      rw [Bool.or_eq_true, not_or, Option.not_isSome_iff_eq_none,
        Option.not_isSome_iff_eq_none] at free
      exact .inr ⟨_, _, free.1, free.2, rfl⟩

/-- **A point that is entered keeps the indexes in agreement.** -/
theorem Indexed.enter (indexed : table.Indexed) {slot : Slot} {index : Nat}
    (freeSlot : table.points slot = none) (freeIndex : table.odcPoints slot.kind index = none) :
    (table.enter slot index).Indexed := by
  refine ⟨?_, ?_, ?_⟩
  · intro kind
    simp only [AnalogTable.enter]
    split
    · next same =>
        subst same
        have fresh : slot.md3index ∉ table.keys slot.kind := by
          rw [indexed.listed, freeSlot]
          exact Bool.false_ne_true
        exact (indexed.apart _).append (List.nodup_singleton _)
          (List.disjoint_singleton.mpr fresh)
    · exact indexed.apart kind
  · intro kind md3index
    simp only [AnalogTable.enter]
    by_cases sameKind : kind = slot.kind
    · subst sameKind
      by_cases sameSlot : md3index = slot.md3index
      · simp [sameSlot]
      · have other : (⟨slot.kind, md3index⟩ : Slot) ≠ slot := fun same =>
          sameSlot (congrArg Slot.md3index same)
        rw [if_pos rfl, if_neg other, List.mem_append, indexed.listed, List.mem_singleton,
          or_iff_left sameSlot]
    · have other : (⟨kind, md3index⟩ : Slot) ≠ slot := fun same =>
        sameKind (congrArg Slot.kind same)
      rw [if_neg sameKind, if_neg other, indexed.listed]
  · intro kind name md3index
    simp only [AnalogTable.enter]
    by_cases sameSlot : (⟨kind, md3index⟩ : Slot) = slot
    · subst sameSlot
      rw [if_pos rfl]
      by_cases sameIndex : name = index
      · subst sameIndex
        simp
      · have absent : table.odcPoints kind name ≠ some md3index := by
          rw [Ne, indexed.found, freeSlot]
          rintro ⟨pt, there, -⟩
          cases there
        simp [sameIndex, Ne.symm sameIndex, absent]
    · rw [if_neg sameSlot, ← indexed.found]
      by_cases taken : kind = slot.kind ∧ name = index
      · obtain ⟨rfl, rfl⟩ := taken
        have other : slot.md3index ≠ md3index := by
          rintro rfl
          exact sameSlot rfl
        simp [freeIndex, other]
      · rw [if_neg taken]

theorem load_indexed (entries : List PointEntry) : (load entries).Indexed := by
  have run : ∀ table : AnalogTable, table.Indexed →
      (entries.foldl AnalogTable.addPoint table).Indexed := by
    induction entries with
    | nil => exact fun table start => start
    | cons entry rest ih =>
        intro table start
        apply ih
        rcases table.addPoint_eq entry with same | ⟨slot, index, freeSlot, freeIndex, added⟩
        · rw [same]
          exact start
        · rw [added]
          exact start.enter freeSlot freeIndex
  exact run {} indexed_empty

/-- **Changes of values keep the indexes in agreement.** -/
theorem Indexed.modify (indexed : table.Indexed) (slot : Slot)
    {change : MD3AnalogCounterPoint → MD3AnalogCounterPoint}
    (sameIndex : ∀ pt, (change pt).index = pt.index) : (table.modify slot change).Indexed := by
  refine ⟨indexed.apart, ?_, ?_⟩
  · intro kind md3index
    rw [isSome_modify, ← indexed.listed]
    rfl
  · intro kind index md3index
    refine (indexed.found kind index md3index).trans ?_
    rw [points_modify]
    split
    · simp only [Option.map_eq_some_iff]
      constructor
      · rintro ⟨pt, there, rfl⟩
        exact ⟨change pt, ⟨pt, there, rfl⟩, sameIndex pt⟩
      · rintro ⟨_, ⟨pt, there, rfl⟩, same⟩
        exact ⟨pt, there, (sameIndex pt).symm.trans same⟩
    · rfl

/-- The indexes of the points of a kind, in the order of the map by MD3 index. -/
def indexesOf (table : AnalogTable) (kind : AnalogCounterModuleType) : List Nat :=
  ((table.keys kind).insertionSort (· ≤ ·)).filterMap fun md3index =>
    (table.points ⟨kind, md3index⟩).map MD3AnalogCounterPoint.index

/-- Two points of a kind with one index are one point. -/
theorem Indexed.inj (indexed : table.Indexed) {kind : AnalogCounterModuleType} {first second : Nat}
    {pt other : MD3AnalogCounterPoint} (there : table.points ⟨kind, first⟩ = some pt)
    (found : table.points ⟨kind, second⟩ = some other) (same : pt.index = other.index) :
    first = second := by
  have byFirst := (indexed.found kind pt.index first).mpr ⟨pt, there, rfl⟩
  have bySecond := (indexed.found kind pt.index second).mpr ⟨other, found, same.symm⟩
  exact Option.some.inj (byFirst.symm.trans bySecond)

theorem Indexed.lists (indexed : table.Indexed) (kind : AnalogCounterModuleType) :
    Lists (table.indexesOf kind)
      fun index => ∃ md3index pt, table.points ⟨kind, md3index⟩ = some pt ∧ pt.index = index := by
  have sorted := List.perm_insertionSort (· ≤ ·) (table.keys kind)
  refine ⟨?_, ?_⟩
  · refine (sorted.nodup_iff.mpr (indexed.apart kind)).filterMap ?_
    intro first second index here there
    rw [Option.mem_def, Option.map_eq_some_iff] at here there
    obtain ⟨pt, atFirst, rfl⟩ := here
    obtain ⟨other, atSecond, same⟩ := there
    exact indexed.inj atFirst atSecond same.symm
  · intro index
    simp only [indexesOf, List.mem_filterMap, Option.map_eq_some_iff]
    constructor
    · rintro ⟨md3index, -, pt, there, same⟩
      exact ⟨md3index, pt, there, same⟩
    · rintro ⟨md3index, pt, there, same⟩
      refine ⟨md3index, ?_, pt, there, same⟩
      rw [sorted.mem_iff, indexed.listed, there]
      rfl

end AnalogTable

/-! ## The loops -/

/-- The points of a port, with the times at which analogs and counters were set. -/
structure PointTable where
  binary : BinaryTable := {}
  analogs : AnalogTable := {}
  changedTime : Slot → Nat := fun _ => 0

namespace PointTable

def setCounterValueUsingODCIndex (table : PointTable) (index : Nat) (meas : BitVec 16)
    (now : Nat) : PointTable × Bool :=
  match table.analogs.odcPoints .counterModule index with
  | none => (table, false)
  | some md3index =>
    ({ table with
        analogs := table.analogs.setCounterValueUsingODCIndex index meas
        changedTime := Function.update table.changedTime ⟨.counterModule, md3index⟩ now }, true)

def resetAnalogValueUsingODCIndex (table : PointTable) (index : Nat) : PointTable × Bool :=
  match table.analogs.odcPoints .analogModule index with
  | none => (table, false)
  | some md3index =>
    ({ table with
        analogs := table.analogs.resetAnalogValueUsingODCIndex index
        changedTime := Function.update table.changedTime ⟨.analogModule, md3index⟩ 0 }, true)

/-- The map is that of the analog points. -/
def resetCounterValueUsingODCIndex (table : PointTable) (index : Nat) : PointTable × Bool :=
  match table.analogs.odcPoints .analogModule index with
  | none => (table, false)
  | some md3index =>
    ({ table with
        analogs := table.analogs.resetCounterValueUsingODCIndex index
        changedTime := Function.update table.changedTime ⟨.analogModule, md3index⟩ 0 }, true)

/-- Mark the binary point with an index. -/
def setChangedFlag (table : PointTable) (index : Nat) : PointTable :=
  match table.binary.layout.findODC index with
  | none => table
  | some key => { table with binary := table.binary.modify key.md3Index PointValue.setChangedFlag }

/-- The functions that the loops call. -/
def access : PointTableAccess PointTable where
  forEachBinaryPoint table := table.binary.layout.keys.map MD3PointKey.index
  forEachAnalogPoint table := table.analogs.indexesOf .analogModule
  forEachCounterPoint table := table.analogs.indexesOf .counterModule
  setChangedFlag := setChangedFlag
  resetAnalogValueUsingODCIndex table index := (table.resetAnalogValueUsingODCIndex index).1
  resetCounterValueUsingODCIndex table index := (table.resetCounterValueUsingODCIndex index).1

/-- A binary point, by MD3 index. -/
def binaryPoint (table : PointTable) (md3index : Nat) : Option (MD3PointKey × PointValue) :=
  (table.binary.layout.keys.find? (·.md3Index == md3index)).map
    fun key => (key, table.binary.value md3index)

/-- An analog point or a counter, with its time, by MD3 index. -/
def timedPoint (kind : AnalogCounterModuleType) (table : PointTable) (md3index : Nat) :
    Option (MD3AnalogCounterPoint × Nat) :=
  (table.analogs.points ⟨kind, md3index⟩).map fun pt => (pt, table.changedTime ⟨kind, md3index⟩)

/-- The points of the three maps by MD3 index, and everything else. -/
def views : PointViews PointTable Nat (MD3PointKey × PointValue) (MD3AnalogCounterPoint × Nat)
    (BinaryTable × (AnalogCounterModuleType → Nat → Option Nat) ×
      (AnalogCounterModuleType → List Nat)) where
  binary := binaryPoint
  analog := timedPoint .analogModule
  counter := timedPoint .counterModule
  rest table :=
    ({ table.binary with value := fun _ => {} }, table.analogs.odcPoints, table.analogs.keys)
  binaryIndex point := point.1.index
  analogIndex point := point.1.index
  marked point := (point.1, point.2.setChangedFlag)
  reset point := (point.1.resetAnalog, 0)

/-- Both kinds of points are found by their indexes. -/
def Indexed (table : PointTable) : Prop := table.analogs.Indexed

theorem Indexed.setCounterValueUsingODCIndex {table : PointTable} (indexed : table.Indexed)
    (index : Nat) (meas : BitVec 16) (now : Nat) :
    (table.setCounterValueUsingODCIndex index meas now).1.Indexed := by
  unfold PointTable.setCounterValueUsingODCIndex
  split
  · exact indexed
  · next there =>
      simp only [Indexed, AnalogTable.setCounterValueUsingODCIndex,
        AnalogTable.modifyUsingODCIndex, there]
      exact AnalogTable.Indexed.modify indexed _ fun _ => rfl

theorem binaryPoint_eq_some {table : PointTable} {md3index : Nat}
    {point : MD3PointKey × PointValue} :
    table.binaryPoint md3index = some point ↔
      point.1 ∈ table.binary.layout.keys ∧ point.1.md3Index = md3index ∧
        point.2 = table.binary.value md3index := by
  obtain ⟨key, value⟩ := point
  rw [binaryPoint, Option.map_eq_some_iff]
  constructor
  · rintro ⟨found, there, same⟩
    obtain ⟨rfl, rfl⟩ := Prod.mk.inj same
    exact ⟨List.mem_of_find?_eq_some there, by simpa using List.find?_some there, rfl⟩
  · rintro ⟨member, rfl, same⟩
    simp only at member same ⊢
    cases found : table.binary.layout.keys.find? (·.md3Index == key.md3Index) with
    | none =>
        have absent := List.find?_eq_none.mp found key member
        simp at absent
    | some other =>
        have sameIndex : other.md3Index = key.md3Index := by simpa using List.find?_some found
        have same' := BinaryLayout.eq_of_md3Index (List.mem_of_find?_eq_some found) member sameIndex
        exact ⟨other, rfl, by rw [same', same]⟩

theorem binaryPoint_lists (table : PointTable) :
    Lists (table.binary.layout.keys.map MD3PointKey.index) fun index =>
      ∃ md3index point, table.binaryPoint md3index = some point ∧ point.1.index = index := by
  refine ⟨table.binary.layout.named, ?_⟩
  intro index
  rw [List.mem_map]
  constructor
  · rintro ⟨key, member, same⟩
    exact ⟨key.md3Index, (key, table.binary.value key.md3Index),
      binaryPoint_eq_some.mpr ⟨member, rfl, rfl⟩, same⟩
  · rintro ⟨md3index, point, there, same⟩
    exact ⟨point.1, (binaryPoint_eq_some.mp there).1, same⟩

theorem timedPoint_lists {table : PointTable} (indexed : table.Indexed)
    (kind : AnalogCounterModuleType) :
    Lists (table.analogs.indexesOf kind) fun index =>
      ∃ md3index point, timedPoint kind table md3index = some point ∧ point.1.index = index := by
  obtain ⟨once, all⟩ := AnalogTable.Indexed.lists indexed kind
  refine ⟨once, ?_⟩
  intro index
  rw [all]
  constructor
  · rintro ⟨md3index, pt, there, same⟩
    exact ⟨md3index, _, by rw [timedPoint, there, Option.map_some], same⟩
  · rintro ⟨md3index, point, there, same⟩
    obtain ⟨pt, found, rfl⟩ := Option.map_eq_some_iff.mp there
    exact ⟨md3index, pt, found, same⟩

/-- Marking leaves all but values of binary points. -/
theorem setChangedFlag_eq (table : PointTable) (index : Nat) :
    ∃ value, access.setChangedFlag table index =
      { table with binary := { table.binary with value := value } } := by
  simp only [access, setChangedFlag]
  split
  · exact ⟨_, rfl⟩
  · exact ⟨_, rfl⟩

theorem setChangedFlag_binaryPoint (table : PointTable) (index md3index : Nat) :
    (table.setChangedFlag index).binaryPoint md3index =
      (table.binaryPoint md3index).map fun point =>
        if point.1.index = index then (point.1, point.2.setChangedFlag) else point := by
  unfold setChangedFlag
  cases there : table.binaryPoint md3index with
  | none =>
      have absent := Option.map_eq_none_iff.mp there
      split
      · exact there
      · rw [binaryPoint, BinaryTable.modify_layout, absent]
        rfl
  | some point =>
      obtain ⟨member, place, value⟩ := binaryPoint_eq_some.mp there
      rw [Option.map_some]
      cases found : table.binary.layout.findODC index with
      | none =>
          have other : point.1.index ≠ index := by
            intro same
            rw [BinaryLayout.findODC_eq_some.mpr ⟨member, same⟩] at found
            cases found
          rw [if_neg other]
          exact there
      | some key =>
          obtain ⟨keyMember, rfl⟩ := BinaryLayout.findODC_eq_some.mp found
          refine binaryPoint_eq_some.mpr ?_
          simp only [BinaryTable.modify_layout, BinaryTable.modify_value]
          by_cases same : point.1.index = key.index
          · have sameKey : point.1 = key :=
              List.inj_on_of_nodup_map table.binary.layout.named member keyMember same
            rw [if_pos same, ← sameKey, if_pos place.symm, place, value]
            exact ⟨member, rfl, rfl⟩
          · have otherPlace : md3index ≠ key.md3Index := by
              rintro rfl
              exact same (congrArg MD3PointKey.index
                (BinaryLayout.eq_of_md3Index member keyMember place))
            rw [if_neg same, if_neg otherPlace]
            exact ⟨member, place, value⟩

/-- A reset leaves all but analog points. -/
theorem resetAnalogValueUsingODCIndex_eq (table : PointTable) (index : Nat) :
    (table.resetAnalogValueUsingODCIndex index).1 =
      match table.analogs.odcPoints .analogModule index with
      | none => table
      | some md3index =>
        { table with
          analogs := table.analogs.modify ⟨.analogModule, md3index⟩
            MD3AnalogCounterPoint.resetAnalog
          changedTime := Function.update table.changedTime ⟨.analogModule, md3index⟩ 0 } := by
  unfold resetAnalogValueUsingODCIndex
  cases there : table.analogs.odcPoints .analogModule index with
  | none => rfl
  | some md3index =>
      simp only [AnalogTable.resetAnalogValueUsingODCIndex, AnalogTable.modifyUsingODCIndex, there]

theorem resetAnalogValueUsingODCIndex_timedPoint {table : PointTable} (indexed : table.Indexed)
    (index md3index : Nat) :
    timedPoint .analogModule (table.resetAnalogValueUsingODCIndex index).1 md3index =
      (timedPoint .analogModule table md3index).map fun point =>
        if point.1.index = index then (point.1.resetAnalog, 0) else point := by
  rw [resetAnalogValueUsingODCIndex_eq]
  unfold timedPoint
  cases found : table.analogs.odcPoints .analogModule index with
  | none =>
      cases there : table.analogs.points ⟨.analogModule, md3index⟩ with
      | none => rfl
      | some pt =>
          have other : pt.index ≠ index := by
            intro same
            rw [(indexed.found _ _ _).mpr ⟨pt, there, same⟩] at found
            cases found
          simp only [Option.map_some, if_neg other]
  | some place =>
      obtain ⟨pt, there, rfl⟩ := (indexed.found _ _ _).mp found
      by_cases same : md3index = place
      · subst same
        simp only [AnalogTable.points_modify, if_true, there, Option.map_some,
          Function.update_self]
      · have otherSlot : (⟨.analogModule, md3index⟩ : Slot) ≠ ⟨.analogModule, place⟩ := fun both =>
          same (congrArg Slot.md3index both)
        simp only [AnalogTable.points_modify, if_neg otherSlot,
          Function.update_of_ne otherSlot]
        cases here : table.analogs.points ⟨.analogModule, md3index⟩ with
        | none => rfl
        | some other =>
            have differ : other.index ≠ pt.index := fun sameIndex =>
              same (indexed.inj here there sameIndex)
            simp only [Option.map_some, if_neg differ]

/-- Counters are not among the points that are reset. -/
theorem resetAnalogValueUsingODCIndex_counter (table : PointTable) (index : Nat) :
    timedPoint .counterModule (table.resetAnalogValueUsingODCIndex index).1 =
      timedPoint .counterModule table := by
  rw [resetAnalogValueUsingODCIndex_eq]
  cases table.analogs.odcPoints .analogModule index with
  | none => rfl
  | some place =>
      funext md3index
      have other : (⟨.counterModule, md3index⟩ : Slot) ≠ ⟨.analogModule, place⟩ := nofun
      simp only [timedPoint, AnalogTable.points_modify, if_neg other,
        Function.update_of_ne other]

theorem lawful : Lawful access views Indexed where
  forEachBinaryPoint table _ := table.binaryPoint_lists
  forEachAnalogPoint _ indexed := timedPoint_lists indexed .analogModule
  forEachCounterPoint _ indexed := timedPoint_lists indexed .counterModule
  set_inv table index indexed := by
    obtain ⟨value, marked⟩ := table.setChangedFlag_eq index
    rw [marked]
    exact indexed
  set_binary := ⟨fun table index _ => table.setChangedFlag_binaryPoint index, fun _ => rfl,
    fun _ => rfl⟩
  set_analog table index _ := by
    obtain ⟨value, marked⟩ := table.setChangedFlag_eq index
    rw [marked]
    rfl
  set_counter table index _ := by
    obtain ⟨value, marked⟩ := table.setChangedFlag_eq index
    rw [marked]
    rfl
  set_rest table index _ := by
    obtain ⟨value, marked⟩ := table.setChangedFlag_eq index
    rw [marked]
    rfl
  reset_inv table index indexed := by
    simp only [access, resetAnalogValueUsingODCIndex_eq]
    cases table.analogs.odcPoints .analogModule index with
    | none => exact indexed
    | some place => exact AnalogTable.Indexed.modify indexed _ fun _ => rfl
  reset_binary table index _ := by
    simp only [access, resetAnalogValueUsingODCIndex_eq]
    cases table.analogs.odcPoints .analogModule index <;> rfl
  reset_analog := ⟨fun table index indexed =>
    resetAnalogValueUsingODCIndex_timedPoint indexed index, fun _ => rfl, fun _ => rfl⟩
  reset_counter table index _ := table.resetAnalogValueUsingODCIndex_counter index
  reset_rest table index _ := by
    simp only [access, resetAnalogValueUsingODCIndex_eq]
    cases table.analogs.odcPoints .analogModule index <;> rfl
  resetCounter := rfl

end PointTable

/-! ## The analogs without times -/

namespace AnalogTable

variable {table : AnalogTable}

/-- The turn of the first loop for a key resets its point. -/
theorem Indexed.reset_turn (indexed : table.Indexed) (md3index : Nat) :
    (match table.points ⟨.analogModule, md3index⟩ with
      | none => table
      | some pt => table.resetAnalogValueUsingODCIndex pt.index) =
      table.modify ⟨.analogModule, md3index⟩ MD3AnalogCounterPoint.resetAnalog := by
  cases there : table.points ⟨.analogModule, md3index⟩ with
  | none =>
      have same : ∀ slot, (table.modify ⟨.analogModule, md3index⟩
          MD3AnalogCounterPoint.resetAnalog).points slot = table.points slot := by
        intro slot
        rw [points_modify]
        split
        · next here =>
            rw [here, there]
            rfl
        · rfl
      exact congrArg (fun points => { table with points }) (funext same).symm
  | some pt =>
      have found := (indexed.found .analogModule pt.index md3index).mpr ⟨pt, there, rfl⟩
      simp only [resetAnalogValueUsingODCIndex, modifyUsingODCIndex, found]

theorem Indexed.resetAnalogValueUsingODCIndex (indexed : table.Indexed) (index : Nat) :
    (table.resetAnalogValueUsingODCIndex index).Indexed := by
  rw [AnalogTable.resetAnalogValueUsingODCIndex, modifyUsingODCIndex]
  split
  · exact indexed
  · exact indexed.modify _ fun _ => rfl

/-- The first loop resets the analog points. -/
theorem Indexed.resetEach_analog (indexed : table.Indexed) (md3index : Nat) :
    (table.resetEach AnalogTable.resetAnalogValueUsingODCIndex .analogModule).points
        ⟨.analogModule, md3index⟩ =
      (table.points ⟨.analogModule, md3index⟩).map MD3AnalogCounterPoint.resetAnalog := by
  have run : ∀ (keys : List Nat) (t : AnalogTable), t.Indexed →
      (keys.foldl
        (fun t md3index =>
          match t.points ⟨.analogModule, md3index⟩ with
          | none => t
          | some pt => t.resetAnalogValueUsingODCIndex pt.index) t).points
          ⟨.analogModule, md3index⟩ =
        if md3index ∈ keys then
          (t.points ⟨.analogModule, md3index⟩).map MD3AnalogCounterPoint.resetAnalog
        else t.points ⟨.analogModule, md3index⟩ := by
    intro keys
    induction keys with
    | nil =>
        intro t start
        rw [if_neg List.not_mem_nil]
        rfl
    | cons key rest ih =>
        intro t start
        have later : (t.modify ⟨.analogModule, key⟩ MD3AnalogCounterPoint.resetAnalog).Indexed :=
          start.modify _ fun _ => rfl
        rw [List.foldl_cons, start.reset_turn, ih _ later, points_modify]
        by_cases here : md3index = key
        · subst here
          rw [if_pos rfl, if_pos List.mem_cons_self, Option.map_map]
          exact ite_self _
        · have other : (⟨.analogModule, md3index⟩ : Slot) ≠ ⟨.analogModule, key⟩ := fun same =>
            here (congrArg Slot.md3index same)
          simp only [if_neg other, List.mem_cons, here, false_or]
  refine (run _ table indexed).trans ?_
  by_cases listed : md3index ∈ table.keys .analogModule
  · rw [if_pos listed]
  · have absent : table.points ⟨.analogModule, md3index⟩ = none := by
      rwa [indexed.listed, Option.not_isSome_iff_eq_none] at listed
    rw [if_neg listed, absent]
    rfl

/-- The second loop resets analog points again. -/
theorem Indexed.setAllPointsQualityToCommsLost_analog (indexed : table.Indexed) (md3index : Nat) :
    table.setAllPointsQualityToCommsLost.points ⟨.analogModule, md3index⟩ =
      (table.points ⟨.analogModule, md3index⟩).map MD3AnalogCounterPoint.resetAnalog := by
  let held : AnalogTable → Prop := fun t => t.Indexed ∧ t.points ⟨.analogModule, md3index⟩ =
    (table.points ⟨.analogModule, md3index⟩).map MD3AnalogCounterPoint.resetAnalog
  have inv : Indexed (table.resetEach AnalogTable.resetAnalogValueUsingODCIndex .analogModule) :=
    resetEach_induction _ indexed (fun t index inv => inv.resetAnalogValueUsingODCIndex index) _
  refine (resetEach_induction held ⟨inv, indexed.resetEach_analog md3index⟩ ?_ _).2
  rintro t index ⟨inv, done⟩
  refine ⟨inv.resetAnalogValueUsingODCIndex index, ?_⟩
  rw [resetCounterValueUsingODCIndex, modifyUsingODCIndex]
  split
  · exact done
  · rw [points_modify, done, Option.map_map]
    exact ite_self _

theorem setAllPointsQualityToCommsLost_counter (table : AnalogTable) (md3index : Nat) :
    table.setAllPointsQualityToCommsLost.points ⟨.counterModule, md3index⟩ =
      table.points ⟨.counterModule, md3index⟩ := by
  let held : AnalogTable → Prop := fun t =>
    t.points ⟨.counterModule, md3index⟩ = table.points ⟨.counterModule, md3index⟩
  have kept : ∀ (t : AnalogTable) (index : Nat), held t →
      held (t.resetAnalogValueUsingODCIndex index) := by
    intro t index before
    rw [AnalogTable.resetAnalogValueUsingODCIndex, modifyUsingODCIndex]
    split
    · exact before
    · next place _ =>
        have other : (⟨.counterModule, md3index⟩ : Slot) ≠ ⟨.analogModule, place⟩ := by
          rintro ⟨⟩
        exact (points_modify_of_ne _ _ _ other).trans before
  exact resetEach_induction held (resetEach_induction held rfl kept _) kept _

end AnalogTable

/-- **The analog points and counters after the loops are those of `AnalogTable`**, whose loops
leave out the times, the events and the binary points. -/
theorem PointTable.setAllPointsQualityToCommsLost_points {table : PointTable}
    (indexed : table.Indexed) (name : String) (clock : EventType → Nat) :
    (Connectors.setAllPointsQualityToCommsLost access name clock table).1.analogs.points =
      table.analogs.setAllPointsQualityToCommsLost.points := by
  have untimed : ∀ (kind : AnalogCounterModuleType) (t : PointTable) (md3index : Nat),
      (timedPoint kind t md3index).map Prod.fst = t.analogs.points ⟨kind, md3index⟩ := by
    intro kind t md3index
    rw [timedPoint, Option.map_map]
    exact Option.map_id'
  funext slot
  obtain ⟨kind, md3index⟩ := slot
  cases kind with
  | counterModule =>
      rw [AnalogTable.setAllPointsQualityToCommsLost_counter, ← untimed, ← untimed]
      exact congrArg _ (lawful.counter_after name clock indexed md3index)
  | analogModule =>
      rw [AnalogTable.Indexed.setAllPointsQualityToCommsLost_analog indexed, ← untimed, ← untimed,
        Option.map_map]
      refine (congrArg _ (lawful.analog_after name clock indexed md3index)).trans ?_
      rw [Option.map_map]
      rfl

end OpenDataCon.MD3Port
