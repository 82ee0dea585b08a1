import OpenDataCon.CBPort.CommsLost
import OpenDataCon.MD3Port.CommsLost

/-!
# Masters that lose their outstations

Both masters make the loops over their point tables when communications are lost. Events are
published for all of the points, binary points are marked, and analog points are reset; counters
are not (`setAllPointsQualityToCommsLost_iff`).
-/

set_option autoImplicit false

namespace OpenDataCon.MasterQueue

open Connectors

/-- **Communications lost, at both masters.** Whatever points a table has, all its binary, analog
and counter points are dealt with, and nothing else, if and only if each counter has its missing
value, has not been set, and has no time. -/
theorem setAllPointsQualityToCommsLost_iff (name : String) (clock : EventType → Nat) :
    (∀ table : CBPort.OrderedTable, table.Ordered →
      (DoneAt CBPort.OrderedTable.views CBPort.OrderedTable.access name clock table ↔
        CBPort.OrderedTable.views.CountersReset table)) ∧
    ∀ table : MD3Port.PointTable, table.Indexed →
      (DoneAt MD3Port.PointTable.views MD3Port.PointTable.access name clock table ↔
        MD3Port.PointTable.views.CountersReset table) := by
  constructor
  · intro table ordered
    exact CBPort.OrderedTable.lawful.resets_to_commsLost_iff name clock ordered
  · intro table indexed
    exact MD3Port.PointTable.lawful.resets_to_commsLost_iff name clock indexed

/-- A table with an analog point and a counter. -/
def twoPoints : CBPort.OrderedTable :=
  .load [.analog 0 1 1 ⟨1, .PositionB⟩ .ANA, .counter 1 1 1 ⟨2, .PositionA⟩ .ACC12]

/-- The same points in a table of MD3. -/
def twoMD3Points : MD3Port.PointTable where
  analogs := .load [⟨.analogModule, 0, 32, 0⟩, ⟨.counterModule, 1, 33, 0⟩]

theorem twoPoints_countersReset : CBPort.OrderedTable.views.CountersReset twoPoints := by
  intro key point there
  have found : twoPoints.table.counter.odcPointMap key = some point := there
  by_cases here : key = 1
  · subst here
    cases found
    rfl
  · have absent : twoPoints.table.counter.odcPointMap key = none := Function.update_of_ne here _ _
    rw [absent] at found
    cases found

theorem twoMD3Points_countersReset :
    MD3Port.PointTable.views.CountersReset twoMD3Points := by
  have points : twoMD3Points.analogs.points = fun slot =>
      if slot = ⟨.counterModule, 8448⟩ then some { index := 1 }
      else if slot = ⟨.analogModule, 8192⟩ then some { index := 0 }
      else none := rfl
  intro key point there
  obtain ⟨pt, found, rfl⟩ := Option.map_eq_some_iff.mp there
  simp only [points, reduceCtorEq, MD3Port.Slot.mk.injEq, false_and, if_false] at found
  split at found
  · cases found
    rfl
  · cases found

/-- Counters that were never set are not to be reset. -/
theorem setAllPointsQualityToCommsLost_unset :
    DoneAt CBPort.OrderedTable.views CBPort.OrderedTable.access "master" (fun _ => 5) twoPoints ∧
      DoneAt MD3Port.PointTable.views MD3Port.PointTable.access "master" (fun _ => 5)
        twoMD3Points := by
  have both := setAllPointsQualityToCommsLost_iff "master" fun _ => 5
  constructor
  · exact (both.1 twoPoints (CBPort.OrderedTable.load_ordered _)).mpr twoPoints_countersReset
  · exact (both.2 twoMD3Points (MD3Port.AnalogTable.load_indexed _)).mpr
      twoMD3Points_countersReset

/-- A counter that was set keeps its value. -/
theorem setAllPointsQualityToCommsLost_counterKept :
    ¬DoneAt CBPort.OrderedTable.views CBPort.OrderedTable.access "master" (fun _ => 5)
        (twoPoints.setCounterValueUsingODCIndex 1 7 1000) ∧
      ¬DoneAt MD3Port.PointTable.views MD3Port.PointTable.access "master" (fun _ => 5)
        (twoMD3Points.setCounterValueUsingODCIndex 1 7#16 1000).1 := by
  constructor
  · intro done
    have loaded : twoPoints.Ordered := CBPort.OrderedTable.load_ordered _
    have reset := (CBPort.OrderedTable.lawful.resets_to_commsLost_iff "master" _
      (loaded.setCounterValueUsingODCIndex 1 7 1000)).mp done 1 _ rfl
    exact absurd (congrArg CBPort.CBAnalogCounterPoint.analog reset) (by decide)
  · intro done
    have loaded : twoMD3Points.Indexed := MD3Port.AnalogTable.load_indexed _
    have reset := (MD3Port.PointTable.lawful.resets_to_commsLost_iff "master" _
      (loaded.setCounterValueUsingODCIndex 1 7#16 1000)).mp done 8448 _ rfl
    exact absurd (congrArg Prod.snd reset) (by decide)

end OpenDataCon.MasterQueue
