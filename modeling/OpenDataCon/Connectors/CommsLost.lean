import OpenDataCon.Connectors.QualityFlags
import OpenDataCon.Connectors.Transforms
import OpenDataCon.Foundations.IndexedChanges

/-!
# Communications lost

When a master loses its outstation it publishes a quality event for each of its binary, analog and
counter points, and it resets the values of its point table. The masters do this with the same
three loops over tables of their own: `PointTableAccess` has the functions of a table that the
loops call, and `PointViews` what the table holds.

`CommsLost` says what is wanted of the loops: all three kinds of points are changed, nothing else
is, and there is one event for each point. The tables of the masters do not do as much. What their
functions do is in `Lawful`: the one that is called for a counter changes analog points. So the
loops do what is wanted exactly when the counters were as they are after a reset already
(`Lawful.resets_to_commsLost_iff`).
-/

set_option autoImplicit false

namespace OpenDataCon.Connectors

open IndexedChanges

/-! ## The loops -/

/-- An event as it is when it is published. -/
structure QualityEvent where
  eventType : EventType
  index : Nat
  sourcePort : String
  quality : QualityFlags
  timestamp : Nat
  payload : QualityFlags
deriving DecidableEq

/-- The functions of a point table: the indexes of the points in the order of its maps, and the
changes of a point that is found by its index. -/
structure PointTableAccess (T : Type) where
  forEachBinaryPoint : T → List Nat
  forEachAnalogPoint : T → List Nat
  forEachCounterPoint : T → List Nat
  setChangedFlag : T → Nat → T
  resetAnalogValueUsingODCIndex : T → Nat → T
  resetCounterValueUsingODCIndex : T → Nat → T

/-- The event of a loop, with the time at which it was made, and the index of a point. -/
def commsLostEvent (name : String) (clock : EventType → Nat) (eventType : EventType)
    (index : Nat) : QualityEvent where
  eventType := eventType
  index := index
  sourcePort := name
  quality := QualityFlags.COMM_LOST
  timestamp := clock eventType
  payload := QualityFlags.COMM_LOST

section Loops

variable {T : Type} (access : PointTableAccess T) (name : String) (clock : EventType → Nat)

/-- One of the loops: each point is changed, and its event is published. -/
def forEachPoint (eventType : EventType) (change : T → Nat → T) (indexes : List Nat)
    (state : T × List QualityEvent) : T × List QualityEvent :=
  indexes.foldl
    (fun state index =>
      (change state.1 index, state.2 ++ [commsLostEvent name clock eventType index])) state

def setAllPointsQualityToCommsLost (table : T) : T × List QualityEvent :=
  let binary := forEachPoint name clock .BinaryQuality access.setChangedFlag
    (access.forEachBinaryPoint table) (table, [])
  let analog := forEachPoint name clock .AnalogQuality access.resetAnalogValueUsingODCIndex
    (access.forEachAnalogPoint binary.1) binary
  forEachPoint name clock .CounterQuality access.resetCounterValueUsingODCIndex
    (access.forEachCounterPoint analog.1) analog

end Loops

/-! ## What is wanted -/

/-- What a table holds: binary points, analog points and counters by key, and the rest of it. -/
structure PointViews (T κ B A R : Type) where
  binary : T → κ → Option B
  analog : T → κ → Option A
  counter : T → κ → Option A
  rest : T → R
  binaryIndex : B → Nat
  analogIndex : A → Nat
  marked : B → B
  reset : A → A

section Wanted

variable {T κ B A R : Type} (views : PointViews T κ B A R)

/-- There is a point of the kind that an event is about, with its index. -/
def PointViews.HasPoint (table : T) (index : Nat) : EventType → Prop
  | .BinaryQuality => ∃ key point, views.binary table key = some point ∧
      views.binaryIndex point = index
  | .AnalogQuality => ∃ key point, views.analog table key = some point ∧
      views.analogIndex point = index
  | .CounterQuality => ∃ key point, views.counter table key = some point ∧
      views.analogIndex point = index
  | _ => False

/-- Every binary point is marked, every analog point and every counter is reset, nothing else is
changed, and one event is published for each of them. -/
structure CommsLost (name : String) (clock : EventType → Nat) (before after : T)
    (published : List QualityEvent) : Prop where
  binary : ∀ key, views.binary after key = (views.binary before key).map views.marked
  analog : ∀ key, views.analog after key = (views.analog before key).map views.reset
  counter : ∀ key, views.counter after key = (views.counter before key).map views.reset
  rest : views.rest after = views.rest before
  once : published.Nodup
  events : ∀ event, event ∈ published ↔
    ∃ eventType index, views.HasPoint before index eventType ∧
      event = commsLostEvent name clock eventType index

/-- The loops over a table do what is wanted. -/
def DoneAt (access : PointTableAccess T) (name : String) (clock : EventType → Nat)
    (table : T) : Prop :=
  let after := setAllPointsQualityToCommsLost access name clock table
  CommsLost views name clock table after.1 after.2

/-- Resetting the counters would change nothing. -/
def PointViews.CountersReset (table : T) : Prop :=
  ∀ key point, views.counter table key = some point → views.reset point = point

end Wanted

/-! ## What is done -/

/-- A list of the indexes for which something holds, each of them once. -/
structure Lists (indexes : List Nat) (holds : Nat → Prop) : Prop where
  once : indexes.Nodup
  all : ∀ index, index ∈ indexes ↔ holds index

/-- What the functions of a table do to what it holds, while its invariant holds. -/
structure Lawful {T κ B A R : Type} (access : PointTableAccess T) (views : PointViews T κ B A R)
    (Inv : T → Prop) : Prop where
  forEachBinaryPoint : ∀ table, Inv table →
    Lists (access.forEachBinaryPoint table) (views.HasPoint table · .BinaryQuality)
  forEachAnalogPoint : ∀ table, Inv table →
    Lists (access.forEachAnalogPoint table) (views.HasPoint table · .AnalogQuality)
  forEachCounterPoint : ∀ table, Inv table →
    Lists (access.forEachCounterPoint table) (views.HasPoint table · .CounterQuality)
  set_inv : Preserves Inv access.setChangedFlag
  set_binary : Changes Inv access.setChangedFlag views.binary views.binaryIndex views.marked
  set_analog : Keeps Inv access.setChangedFlag views.analog
  set_counter : Keeps Inv access.setChangedFlag views.counter
  set_rest : Keeps Inv access.setChangedFlag views.rest
  reset_inv : Preserves Inv access.resetAnalogValueUsingODCIndex
  reset_binary : Keeps Inv access.resetAnalogValueUsingODCIndex views.binary
  reset_analog :
    Changes Inv access.resetAnalogValueUsingODCIndex views.analog views.analogIndex views.reset
  reset_counter : Keeps Inv access.resetAnalogValueUsingODCIndex views.counter
  reset_rest : Keeps Inv access.resetAnalogValueUsingODCIndex views.rest
  /-- The index of a counter is looked up among the analog points. -/
  resetCounter : access.resetCounterValueUsingODCIndex = access.resetAnalogValueUsingODCIndex

section Laws

variable {T κ B A R : Type} {access : PointTableAccess T} {views : PointViews T κ B A R}
  {Inv : T → Prop} (name : String) (clock : EventType → Nat)

theorem forEachPoint_eq (eventType : EventType) (change : T → Nat → T) (indexes : List Nat)
    (state : T × List QualityEvent) :
    forEachPoint name clock eventType change indexes state =
      (indexes.foldl change state.1,
        state.2 ++ indexes.map (commsLostEvent name clock eventType)) :=
  foldl_outputs change _ indexes state.1 state.2

/-- The events of a kind, one for each index of a list. -/
theorem commsLostEvent_inj {eventType other : EventType} {index otherIndex : Nat} :
    commsLostEvent name clock eventType index = commsLostEvent name clock other otherIndex ↔
      eventType = other ∧ index = otherIndex := by
  constructor
  · intro same
    exact ⟨congrArg QualityEvent.eventType same, congrArg QualityEvent.index same⟩
  · rintro ⟨rfl, rfl⟩
    rfl

theorem Lists.nodup_events {indexes : List Nat} {holds : Nat → Prop}
    (lists : Lists indexes holds) (eventType : EventType) :
    (indexes.map (commsLostEvent name clock eventType)).Nodup :=
  lists.once.map fun _ _ same => ((commsLostEvent_inj name clock).mp same).2

/-- Events of different kinds are different. -/
theorem disjoint_events {eventType other : EventType} (differ : eventType ≠ other)
    (indexes otherIndexes : List Nat) :
    (indexes.map (commsLostEvent name clock eventType)).Disjoint
      (otherIndexes.map (commsLostEvent name clock other)) := by
  intro event first second
  obtain ⟨index, -, rfl⟩ := List.mem_map.mp first
  obtain ⟨otherIndex, -, same⟩ := List.mem_map.mp second
  exact differ ((commsLostEvent_inj name clock).mp same).1.symm

/-- Only points have events. -/
theorem PointViews.hasPoint_kind {table : T} {index : Nat} {eventType : EventType}
    (has : views.HasPoint table index eventType) :
    eventType = .BinaryQuality ∨ eventType = .AnalogQuality ∨ eventType = .CounterQuality := by
  cases eventType with
  | BinaryQuality => exact .inl rfl
  | AnalogQuality => exact .inr (.inl rfl)
  | CounterQuality => exact .inr (.inr rfl)
  | _ => cases has

/-- The events of three lists are those of the points, each of them once. -/
theorem PointViews.events_of_lists {table : T} {binary analog counter : List Nat}
    (ofBinary : Lists binary (views.HasPoint table · .BinaryQuality))
    (ofAnalog : Lists analog (views.HasPoint table · .AnalogQuality))
    (ofCounter : Lists counter (views.HasPoint table · .CounterQuality)) :
    (binary.map (commsLostEvent name clock .BinaryQuality) ++
        analog.map (commsLostEvent name clock .AnalogQuality) ++
        counter.map (commsLostEvent name clock .CounterQuality)).Nodup ∧
      ∀ event, event ∈ binary.map (commsLostEvent name clock .BinaryQuality) ++
          analog.map (commsLostEvent name clock .AnalogQuality) ++
          counter.map (commsLostEvent name clock .CounterQuality) ↔
        ∃ eventType index, views.HasPoint table index eventType ∧
          event = commsLostEvent name clock eventType index := by
  constructor
  · refine List.Nodup.append (List.Nodup.append (ofBinary.nodup_events name clock _)
      (ofAnalog.nodup_events name clock _) (disjoint_events name clock (by decide) _ _))
      (ofCounter.nodup_events name clock _) (List.disjoint_append_left.mpr ⟨?_, ?_⟩)
    · exact disjoint_events name clock (by decide) _ _
    · exact disjoint_events name clock (by decide) _ _
  · intro event
    simp only [List.mem_append, List.mem_map]
    constructor
    · rintro ((⟨index, listed, rfl⟩ | ⟨index, listed, rfl⟩) | ⟨index, listed, rfl⟩)
      · exact ⟨_, index, (ofBinary.all index).mp listed, rfl⟩
      · exact ⟨_, index, (ofAnalog.all index).mp listed, rfl⟩
      · exact ⟨_, index, (ofCounter.all index).mp listed, rfl⟩
    · rintro ⟨eventType, index, has, rfl⟩
      rcases views.hasPoint_kind has with rfl | rfl | rfl
      · exact .inl (.inl ⟨index, (ofBinary.all index).mpr has, rfl⟩)
      · exact .inl (.inr ⟨index, (ofAnalog.all index).mpr has, rfl⟩)
      · exact .inr ⟨index, (ofCounter.all index).mpr has, rfl⟩

variable (lawful : Lawful access views Inv)

include lawful in
/-- The tables after each of the loops. -/
theorem Lawful.setAllPointsQualityToCommsLost_eq {table : T} (inv : Inv table) :
    ∃ binary analog counter : List Nat,
      Lists binary (views.HasPoint table · .BinaryQuality) ∧
      Lists analog (views.HasPoint table · .AnalogQuality) ∧
      Lists counter (views.HasPoint table · .CounterQuality) ∧
      setAllPointsQualityToCommsLost access name clock table =
        (counter.foldl access.resetAnalogValueUsingODCIndex
          (analog.foldl access.resetAnalogValueUsingODCIndex
            (binary.foldl access.setChangedFlag table)),
        binary.map (commsLostEvent name clock .BinaryQuality) ++
          analog.map (commsLostEvent name clock .AnalogQuality) ++
          counter.map (commsLostEvent name clock .CounterQuality)) := by
  let first := (access.forEachBinaryPoint table).foldl access.setChangedFlag table
  let second := (access.forEachAnalogPoint first).foldl access.resetAnalogValueUsingODCIndex first
  have firstInv : Inv first := lawful.set_inv.foldl _ inv
  have secondInv : Inv second := lawful.reset_inv.foldl _ firstInv
  have analogs : views.analog first = views.analog table :=
    lawful.set_analog.foldl lawful.set_inv _ inv
  have counters : views.counter second = views.counter table :=
    (lawful.reset_counter.foldl lawful.reset_inv _ firstInv).trans
      (lawful.set_counter.foldl lawful.set_inv _ inv)
  refine ⟨access.forEachBinaryPoint table, access.forEachAnalogPoint first,
    access.forEachCounterPoint second, lawful.forEachBinaryPoint table inv, ?_, ?_, ?_⟩
  · have lists := lawful.forEachAnalogPoint first firstInv
    simpa only [PointViews.HasPoint, analogs] using lists
  · have lists := lawful.forEachCounterPoint second secondInv
    simpa only [PointViews.HasPoint, counters] using lists
  · simp only [setAllPointsQualityToCommsLost, forEachPoint_eq, lawful.resetCounter,
      List.nil_append]
    rfl

section After

variable {table : T} (inv : Inv table)

include lawful inv

theorem Lawful.binary_after (key : κ) :
    views.binary (setAllPointsQualityToCommsLost access name clock table).1 key =
      (views.binary table key).map views.marked := by
  obtain ⟨binary, analog, counter, ofBinary, -, -, result⟩ :=
    lawful.setAllPointsQualityToCommsLost_eq name clock inv
  have firstInv : Inv (binary.foldl access.setChangedFlag table) := lawful.set_inv.foldl _ inv
  have secondInv := lawful.reset_inv.foldl analog firstInv
  rw [result, lawful.reset_binary.foldl lawful.reset_inv _ secondInv,
    lawful.reset_binary.foldl lawful.reset_inv _ firstInv]
  exact lawful.set_binary.foldl_all lawful.set_inv inv
    (fun key point there => (ofBinary.all _).mpr ⟨key, point, there, rfl⟩) key

/-- The analog points with the indexes of counters are reset twice. -/
theorem Lawful.analog_after (key : κ) :
    views.analog (setAllPointsQualityToCommsLost access name clock table).1 key =
      (views.analog table key).map views.reset := by
  obtain ⟨binary, analog, counter, -, ofAnalog, -, result⟩ :=
    lawful.setAllPointsQualityToCommsLost_eq name clock inv
  have firstInv : Inv (binary.foldl access.setChangedFlag table) := lawful.set_inv.foldl _ inv
  have sameAnalogs := lawful.set_analog.foldl lawful.set_inv binary inv
  rw [result]
  refine lawful.reset_analog.foldl_again lawful.reset_inv counter
    (lawful.reset_inv.foldl analog firstInv) ?_ key
  intro key
  rw [lawful.reset_analog.foldl_all lawful.reset_inv firstInv, sameAnalogs]
  intro key point there
  rw [sameAnalogs] at there
  exact (ofAnalog.all _).mpr ⟨key, point, there, rfl⟩

/-- **Counters keep their values.** -/
theorem Lawful.counter_after (key : κ) :
    views.counter (setAllPointsQualityToCommsLost access name clock table).1 key =
      views.counter table key := by
  obtain ⟨binary, analog, counter, -, -, -, result⟩ :=
    lawful.setAllPointsQualityToCommsLost_eq name clock inv
  have firstInv : Inv (binary.foldl access.setChangedFlag table) := lawful.set_inv.foldl _ inv
  have secondInv := lawful.reset_inv.foldl analog firstInv
  rw [result, lawful.reset_counter.foldl lawful.reset_inv _ secondInv,
    lawful.reset_counter.foldl lawful.reset_inv _ firstInv,
    lawful.set_counter.foldl lawful.set_inv _ inv]

theorem Lawful.rest_after :
    views.rest (setAllPointsQualityToCommsLost access name clock table).1 = views.rest table := by
  obtain ⟨binary, analog, counter, -, -, -, result⟩ :=
    lawful.setAllPointsQualityToCommsLost_eq name clock inv
  have firstInv : Inv (binary.foldl access.setChangedFlag table) := lawful.set_inv.foldl _ inv
  have secondInv := lawful.reset_inv.foldl analog firstInv
  rw [result, lawful.reset_rest.foldl lawful.reset_inv _ secondInv,
    lawful.reset_rest.foldl lawful.reset_inv _ firstInv,
    lawful.set_rest.foldl lawful.set_inv _ inv]

/-- **Communications lost.** What is wanted is done if and only if the counters were as they are
after a reset. -/
theorem Lawful.resets_to_commsLost_iff :
    DoneAt views access name clock table ↔ views.CountersReset table := by
  have counters := lawful.counter_after name clock inv
  constructor
  · intro wanted key point there
    have changed := wanted.counter key
    rw [counters, there, Option.map_some] at changed
    exact (Option.some.inj changed).symm
  · intro unchanged
    obtain ⟨binary, analog, counter, ofBinary, ofAnalog, ofCounter, result⟩ :=
      lawful.setAllPointsQualityToCommsLost_eq name clock inv
    obtain ⟨once, events⟩ := views.events_of_lists name clock ofBinary ofAnalog ofCounter
    refine ⟨lawful.binary_after name clock inv, lawful.analog_after name clock inv, ?_,
      lawful.rest_after name clock inv, ?_, ?_⟩
    · intro key
      rw [counters]
      cases there : views.counter table key with
      | none => rfl
      | some point => rw [Option.map_some, unchanged key point there]
    · rw [result]
      exact once
    · rw [result]
      exact events

end After

end Laws

end OpenDataCon.Connectors
