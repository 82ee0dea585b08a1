import Mathlib.Data.List.Sort
import OpenDataCon.CBPort.PointTable
import OpenDataCon.Connectors.CommsLost

/-!
# The point table when communications are lost

The loops over the points of a table go through its maps by ODC index in ascending order. An
`OrderedTable` has the indexes of these maps in a list beside them; the lists are those of the maps
when the table was loaded, and as long as only values change (`OrderedTable.load_ordered`,
`PointMaps.Ordered.modify`).

A counter is reset by its index, which is looked up in the map of the analog points
(`resetCounterValueUsingODCIndex`).
-/

set_option autoImplicit false

namespace OpenDataCon.CBPort

open Connectors IndexedChanges

/-! ## Changes of points -/

def CBBinaryPoint.setChangedFlag (point : CBBinaryPoint) : CBBinaryPoint :=
  { point with changed := true }

namespace PointTable

def resetAnalogValueUsingODCIndex (table : PointTable) (index : Nat) : PointTable × Bool :=
  if (table.analog.odcPointMap index).isSome then
    ({ table with analog := table.analog.modify index (·.resetAnalog) }, true)
  else (table, false)

/-- The map is that of the analog points. -/
def resetCounterValueUsingODCIndex (table : PointTable) (index : Nat) : PointTable × Bool :=
  if (table.analog.odcPointMap index).isSome then
    ({ table with analog := table.analog.modify index (·.resetAnalog) }, true)
  else (table, false)

end PointTable

/-! ## Maps in order -/

/-- The indexes of a map by ODC index, in ascending order. -/
structure PointMaps.Ordered {P : Type} (indexOf : P → Nat) (maps : PointMaps P)
    (indexes : List Nat) : Prop where
  ascending : indexes.Pairwise (· < ·)
  listed : ∀ index, index ∈ indexes ↔ (maps.odcPointMap index).isSome
  own : ∀ index point, maps.odcPointMap index = some point → indexOf point = index

namespace PointMaps

variable {P : Type} {indexOf : P → Nat} {maps : PointMaps P} {indexes : List Nat}

/-- A change of a point with this index changes the points that have it. -/
theorem Ordered.modify_map (ordered : maps.Ordered indexOf indexes) (index : Nat)
    (change : P → P) (key : Nat) :
    (maps.modify index change).odcPointMap key =
      (maps.odcPointMap key).map fun point =>
        if indexOf point = index then change point else point := by
  rw [modify_odcPointMap]
  cases there : maps.odcPointMap key with
  | none =>
      by_cases same : key = index
      · rw [if_pos same, ← same, there]
        rfl
      · rw [if_neg same]
        rfl
  | some point =>
      rw [Option.map_some, ordered.own key point there]
      by_cases same : key = index
      · rw [if_pos same, if_pos same, ← same, there]
        rfl
      · rw [if_neg same, if_neg same]

/-- **Changes of values keep the order.** -/
theorem Ordered.modify (ordered : maps.Ordered indexOf indexes) (index : Nat) {change : P → P}
    (sameIndex : ∀ point, indexOf (change point) = indexOf point) :
    (maps.modify index change).Ordered indexOf indexes := by
  refine ⟨ordered.ascending, ?_, ?_⟩
  · intro key
    rw [ordered.modify_map, Option.isSome_map, ordered.listed]
  · intro key point there
    rw [ordered.modify_map, Option.map_eq_some_iff] at there
    obtain ⟨before, found, rfl⟩ := there
    rw [apply_ite indexOf, sameIndex, ite_self, ordered.own key before found]

/-- The indexes of the points, in the order of the map. -/
def indexesOf (indexOf : P → Nat) (maps : PointMaps P) (indexes : List Nat) : List Nat :=
  indexes.filterMap fun index => (maps.odcPointMap index).map indexOf

theorem Ordered.indexesOf_eq (ordered : maps.Ordered indexOf indexes) :
    maps.indexesOf indexOf indexes = indexes := by
  rw [indexesOf]
  refine (List.filterMap_congr fun index member => ?_).trans (List.filterMap_some)
  obtain ⟨point, there⟩ := Option.isSome_iff_exists.mp ((ordered.listed index).mp member)
  rw [there, Option.map_some, ordered.own index point there]

/-- The indexes are those of the points, each of them once. -/
theorem Ordered.lists (ordered : maps.Ordered indexOf indexes) :
    Lists (maps.indexesOf indexOf indexes)
      fun index => ∃ key point, maps.odcPointMap key = some point ∧ indexOf point = index := by
  rw [ordered.indexesOf_eq]
  refine ⟨ordered.ascending.imp Nat.ne_of_lt, ?_⟩
  intro index
  rw [ordered.listed, Option.isSome_iff_exists]
  constructor
  · rintro ⟨point, there⟩
    exact ⟨index, point, there, ordered.own index point there⟩
  · rintro ⟨key, point, there, rfl⟩
    rw [ordered.own key point there]
    exact ⟨point, there⟩

theorem ordered_empty : Ordered indexOf ({} : PointMaps P) [] :=
  ⟨.nil, fun _ => by simp, nofun⟩

/-- Enter an index in the list when its point is new. -/
def enter (maps : PointMaps P) (index : Nat) (indexes : List Nat) : List Nat :=
  if (maps.odcPointMap index).isSome ∧ index ∉ indexes then indexes.orderedInsert (· ≤ ·) index
  else indexes

/-- An addition with an index adds its point at most. -/
def Extends (indexOf : P → Nat) (before after : PointMaps P) (index : Nat) : Prop :=
  after.odcPointMap = before.odcPointMap ∨
    before.odcPointMap index = none ∧ ∃ point, indexOf point = index ∧
      after.odcPointMap = Function.update before.odcPointMap index (some point)

theorem insert_extends (maps : PointMaps P) (cbIndex : Nat) {index : Nat} {point : P}
    (own : indexOf point = index) : Extends indexOf maps (maps.insert cbIndex index point) index := by
  by_cases known : (maps.odcPointMap index).isSome
  · exact .inl (if_pos known)
  · exact .inr ⟨Option.not_isSome_iff_eq_none.mp known, point, own, if_neg known⟩

theorem Extends.ordered {after : PointMaps P} {index : Nat}
    (extend : Extends indexOf maps after index) (ordered : maps.Ordered indexOf indexes) :
    after.Ordered indexOf (after.enter index indexes) := by
  rcases extend with same | ⟨absent, point, own, added⟩
  · have listed : ¬((after.odcPointMap index).isSome ∧ index ∉ indexes) := by
      rintro ⟨there, missing⟩
      rw [same] at there
      exact missing ((ordered.listed index).mpr there)
    rw [enter, if_neg listed]
    refine ⟨ordered.ascending, ?_, ?_⟩
    · rw [same]
      exact ordered.listed
    · rw [same]
      exact ordered.own
  · have fresh : index ∉ indexes := by
      rw [ordered.listed, absent]
      exact Bool.false_ne_true
    have there : (after.odcPointMap index).isSome := by
      rw [added, Function.update_self]
      rfl
    rw [enter, if_pos ⟨there, fresh⟩]
    refine ⟨?_, ?_, ?_⟩
    · have sorted := (ordered.ascending.imp Nat.le_of_lt).orderedInsert index
      have apart : (indexes.orderedInsert (· ≤ ·) index).Nodup :=
        (indexes.perm_orderedInsert (· ≤ ·) index).nodup_iff.mpr
          (List.nodup_cons.mpr ⟨fresh, ordered.ascending.imp Nat.ne_of_lt⟩)
      exact (sorted.and apart).imp fun both => Nat.lt_of_le_of_ne both.1 both.2
    · intro other
      rw [List.mem_orderedInsert, ordered.listed, added, Function.update_apply]
      by_cases same : other = index
      · simp [same]
      · simp [same]
    · intro other found
      rw [added, Function.update_apply]
      by_cases same : other = index
      · rw [if_pos same]
        rintro ⟨⟩
        exact own.trans same.symm
      · rw [if_neg same]
        exact ordered.own other found

end PointMaps

/-! ## Tables in order -/

/-- A point table, with the indexes of its binary points, analog points and counters. -/
structure OrderedTable where
  table : PointTable := {}
  binaryIndexes : List Nat := []
  analogIndexes : List Nat := []
  counterIndexes : List Nat := []

def PointTable.PointCall.index : PointTable.PointCall → Nat
  | .analog index .. | .counter index .. | .binary index .. | .analogControl index ..
  | .binaryControl index .. => index
  | .statusByte .. => 0

namespace OrderedTable

open PointTable (PointCall)

def call (ordered : OrderedTable) (call : PointCall) : OrderedTable :=
  let table := (ordered.table.call call).1
  { table
    binaryIndexes := table.binary.enter call.index ordered.binaryIndexes
    analogIndexes := table.analog.enter call.index ordered.analogIndexes
    counterIndexes := table.counter.enter call.index ordered.counterIndexes }

def load (calls : List PointCall) : OrderedTable := calls.foldl call {}

/-- The lists are those of the maps. -/
structure Ordered (ordered : OrderedTable) : Prop where
  binary : ordered.table.binary.Ordered CBBinaryPoint.index ordered.binaryIndexes
  analog : ordered.table.analog.Ordered CBAnalogCounterPoint.index ordered.analogIndexes
  counter : ordered.table.counter.Ordered CBAnalogCounterPoint.index ordered.counterIndexes

/-- An addition adds its point to one of the maps at most. -/
theorem call_extends (table : PointTable) (call : PointCall) :
    PointMaps.Extends CBBinaryPoint.index table.binary (table.call call).1.binary call.index ∧
      PointMaps.Extends CBAnalogCounterPoint.index table.analog (table.call call).1.analog
        call.index ∧
      PointMaps.Extends CBAnalogCounterPoint.index table.counter (table.call call).1.counter
        call.index := by
  cases call with
  | analog index group channel payloadLocation pointType =>
      rw [PointTable.call, PointTable.addAnalogPointToPointTable]
      dsimp only
      split
      · exact ⟨.inl rfl, .inl rfl, .inl rfl⟩
      · exact ⟨.inl rfl, PointMaps.insert_extends _ _ rfl, .inl rfl⟩
  | counter index group channel payloadLocation pointType =>
      rw [PointTable.call, PointTable.addCounterPointToPointTable]
      dsimp only
      split
      · exact ⟨.inl rfl, .inl rfl, .inl rfl⟩
      · exact ⟨.inl rfl, .inl rfl, PointMaps.insert_extends _ _ rfl⟩
  | binary index group channel payloadLocation pointType isSOE soeIndex =>
      obtain ⟨bits, frame⟩ :=
        table.checkForBinaryBitClash_frame group channel payloadLocation pointType
      rw [PointTable.call, PointTable.addBinaryPointToPointTable]
      dsimp only
      rw [frame]
      split
      · exact ⟨.inl rfl, .inl rfl, .inl rfl⟩
      · split
        · rw [frame]
          exact ⟨.inl rfl, .inl rfl, .inl rfl⟩
        · exact ⟨PointMaps.insert_extends _ _ rfl, .inl rfl, .inl rfl⟩
  | analogControl index group channel pointType =>
      rw [PointTable.call, PointTable.addAnalogControlPointToPointTable]
      dsimp only
      split <;> exact ⟨.inl rfl, .inl rfl, .inl rfl⟩
  | binaryControl index group channel pointType =>
      rw [PointTable.call, PointTable.addBinaryControlPointToPointTable]
      dsimp only
      split
      · exact ⟨.inl rfl, .inl rfl, .inl rfl⟩
      · split <;> exact ⟨.inl rfl, .inl rfl, .inl rfl⟩
  | statusByte group payloadLocation => exact ⟨.inl rfl, .inl rfl, .inl rfl⟩

/-- **A loaded table is in order.** -/
theorem load_ordered (calls : List PointCall) : (load calls).Ordered := by
  have run : ∀ ordered : OrderedTable, ordered.Ordered → (calls.foldl call ordered).Ordered := by
    induction calls with
    | nil => exact fun ordered start => start
    | cons addition rest ih =>
        intro ordered start
        obtain ⟨binary, analog, counter⟩ := call_extends ordered.table addition
        exact ih _ ⟨binary.ordered start.binary, analog.ordered start.analog,
          counter.ordered start.counter⟩
  exact run {} ⟨PointMaps.ordered_empty, PointMaps.ordered_empty, PointMaps.ordered_empty⟩

def setCounterValueUsingODCIndex (ordered : OrderedTable) (index meas now : Nat) :
    OrderedTable :=
  { ordered with table := (ordered.table.setCounterValueUsingODCIndex index meas now).1 }

theorem Ordered.setCounterValueUsingODCIndex {ordered : OrderedTable} (inOrder : ordered.Ordered)
    (index meas now : Nat) : (ordered.setCounterValueUsingODCIndex index meas now).Ordered := by
  unfold OrderedTable.setCounterValueUsingODCIndex PointTable.setCounterValueUsingODCIndex
  split
  · exact ⟨inOrder.binary, inOrder.analog, inOrder.counter.modify index fun _ => rfl⟩
  · exact inOrder

/-! ## The loops -/

/-- The functions that the loops call. -/
def access : PointTableAccess OrderedTable where
  forEachBinaryPoint ordered :=
    ordered.table.binary.indexesOf CBBinaryPoint.index ordered.binaryIndexes
  forEachAnalogPoint ordered :=
    ordered.table.analog.indexesOf CBAnalogCounterPoint.index ordered.analogIndexes
  forEachCounterPoint ordered :=
    ordered.table.counter.indexesOf CBAnalogCounterPoint.index ordered.counterIndexes
  setChangedFlag ordered index :=
    { ordered with
      table :=
        { ordered.table with
          binary := ordered.table.binary.modify index CBBinaryPoint.setChangedFlag } }
  resetAnalogValueUsingODCIndex ordered index :=
    { ordered with table := (ordered.table.resetAnalogValueUsingODCIndex index).1 }
  resetCounterValueUsingODCIndex ordered index :=
    { ordered with table := (ordered.table.resetCounterValueUsingODCIndex index).1 }

/-- The points of the three maps by ODC index, and everything else. -/
def views : PointViews OrderedTable Nat CBBinaryPoint CBAnalogCounterPoint OrderedTable where
  binary ordered := ordered.table.binary.odcPointMap
  analog ordered := ordered.table.analog.odcPointMap
  counter ordered := ordered.table.counter.odcPointMap
  rest ordered :=
    { ordered with
      table :=
        { ordered.table with
          binary := { ordered.table.binary with odcPointMap := fun _ => none }
          analog := { ordered.table.analog with odcPointMap := fun _ => none }
          counter := { ordered.table.counter with odcPointMap := fun _ => none } } }
  binaryIndex := CBBinaryPoint.index
  analogIndex := CBAnalogCounterPoint.index
  marked := CBBinaryPoint.setChangedFlag
  reset := CBAnalogCounterPoint.resetAnalog

/-- At an index without a point there is nothing to change. -/
theorem resetAnalogValueUsingODCIndex_eq (table : PointTable) (index : Nat) :
    (table.resetAnalogValueUsingODCIndex index).1 =
      { table with analog := table.analog.modify index (·.resetAnalog) } := by
  unfold PointTable.resetAnalogValueUsingODCIndex
  by_cases there : (table.analog.odcPointMap index).isSome
  · rw [if_pos there]
  · rw [if_neg there]
    have absent := Option.not_isSome_iff_eq_none.mp there
    have same : table.analog.modify index (·.resetAnalog) = table.analog := by
      rw [PointMaps.modify, absent, Option.map_none, ← absent, Function.update_eq_self]
    rw [same]

theorem access_reset (ordered : OrderedTable) (index : Nat) :
    access.resetAnalogValueUsingODCIndex ordered index =
      { ordered with
        table :=
          { ordered.table with
            analog := ordered.table.analog.modify index (·.resetAnalog) } } :=
  congrArg (fun table => { ordered with table }) (resetAnalogValueUsingODCIndex_eq _ index)

theorem lawful : Lawful access views Ordered where
  forEachBinaryPoint _ inOrder := inOrder.binary.lists
  forEachAnalogPoint _ inOrder := inOrder.analog.lists
  forEachCounterPoint _ inOrder := inOrder.counter.lists
  set_inv _ index inOrder :=
    ⟨inOrder.binary.modify index fun _ => rfl, inOrder.analog, inOrder.counter⟩
  set_binary :=
    ⟨fun _ index inOrder => inOrder.binary.modify_map index _, fun _ => rfl, fun _ => rfl⟩
  set_analog _ _ _ := rfl
  set_counter _ _ _ := rfl
  set_rest _ _ _ := rfl
  reset_inv ordered index inOrder := by
    rw [access_reset]
    exact ⟨inOrder.binary, inOrder.analog.modify index fun _ => rfl, inOrder.counter⟩
  reset_binary ordered index _ := by rw [access_reset]; rfl
  reset_analog :=
    ⟨fun ordered index inOrder key => by
      rw [access_reset]
      exact inOrder.analog.modify_map index _ key, fun _ => rfl, fun _ => rfl⟩
  reset_counter ordered index _ := by rw [access_reset]; rfl
  reset_rest ordered index _ := by rw [access_reset]; rfl
  resetCounter := rfl

end OrderedTable

end OpenDataCon.CBPort
