import OpenDataCon.CBPort.OutstationRequests
import OpenDataCon.CBPort.SOEAddressing
import OpenDataCon.MD3Port.EventOrder

/-!
# Old time stamps

Where old time stamps are replaced, an event is to be queued with its own time if that is
within thirty minutes of the arrival, and with the time of the arrival if it is not. Both
outstations decide the other way round: they replace the time stamps that are near. So the
record of an event is right when its time stamp is the time of the arrival, and otherwise
only in the last second of the thirty minutes, which the comparison of whole seconds takes
for far away (`oldTimeStamps_iff`).
-/

set_option autoImplicit false

namespace OpenDataCon.Outstations

open Runs

/-! ## Times -/

/-- A time stamp is within thirty minutes of the arrival, in milliseconds. -/
def WithinHalfHour (now timestamp : Nat) : Prop :=
  ((now : Int) - (timestamp : Int)).natAbs ≤ 30 * 60 * 1000

instance (now timestamp : Nat) : Decidable (WithinHalfHour now timestamp) := Nat.decLe _ _

/-- The time that the record of an event is to have. -/
def recordTime (now timestamp : Nat) : Nat :=
  if WithinHalfHour now timestamp then timestamp else now

theorem recordTime_of_withinHalfHour {now timestamp : Nat} (near : WithinHalfHour now timestamp) :
    recordTime now timestamp = timestamp := if_pos near

/-- The seconds of two times are less than thirty minutes apart. -/
def SecondsNear (now timestamp : Nat) : Prop :=
  (((now / 1000 : Nat) : Int) - ((timestamp / 1000 : Nat) : Int)).natAbs < 60 * 30

instance (now timestamp : Nat) : Decidable (SecondsNear now timestamp) := Nat.decLt _ _

/-- Times whose seconds are near are near. -/
theorem SecondsNear.withinHalfHour {now timestamp : Nat} (near : SecondsNear now timestamp) :
    WithinHalfHour now timestamp := by
  unfold SecondsNear at near
  unfold WithinHalfHour
  omega

/-- The time that both outstations take. -/
def overriddenTime (now timestamp : Nat) : Nat :=
  if SecondsNear now timestamp then now else timestamp

/-- The time stamp is kept: it is that of the arrival, or it is near but not in seconds. -/
def KeptTime (now timestamp : Nat) : Prop :=
  timestamp = now ∨ WithinHalfHour now timestamp ∧ ¬SecondsNear now timestamp

instance (now timestamp : Nat) : Decidable (KeptTime now timestamp) :=
  inferInstanceAs (Decidable (_ ∨ _))

/-- **When the time is right.** -/
theorem overriddenTime_eq_iff {now timestamp : Nat} :
    overriddenTime now timestamp = recordTime now timestamp ↔ KeptTime now timestamp := by
  by_cases near : SecondsNear now timestamp
  · rw [overriddenTime, if_pos near, recordTime_of_withinHalfHour near.withinHalfHour]
    constructor
    · intro same
      exact .inl same.symm
    · rintro (same | ⟨-, far⟩)
      · exact same.symm
      · exact absurd near far
  · rw [overriddenTime, if_neg near, recordTime]
    split
    · next within => exact iff_of_true rfl (.inr ⟨within, near⟩)
    · next without =>
        constructor
        · intro same
          exact .inl same
        · rintro (same | ⟨within, -⟩)
          · exact same
          · exact absurd within without

end OpenDataCon.Outstations

/-! ## Conitel and Baker -/

namespace OpenDataCon.CBPort.CBOutstation

open Outstations

variable (conf : CBOutstationConf) (outstation : CBOutstation)

/-- The queue has a place beside the last one, which is for the overflow record. -/
def HasRoom (queue : SOEQueue) : Prop :=
  queue.binaryTimeTaggedEventQueue.length <
    (queue.binaryTimeTaggedEventQueueSize + (2 ^ 64 - 1)) % 2 ^ 64

instance (queue : SOEQueue) : Decidable (HasRoom queue) := Nat.decLt ..

/-- What holds of the events that are put on the queue: those of a SOE point that come to
an enabled outstation with room on its queue. -/
def OfQueued (Holds : CBBinaryPoint → Bool → Nat → Nat → Prop) : OutstationAction → Prop
  | .event (.Binary index meas timestamp) now =>
    outstation.enabled = true → outstation.pointTable.isOutstation = true →
      HasRoom outstation.pointTable.soe →
        ∀ point ∈ outstation.pointTable.binary.odcPointMap index, point.soePoint = true →
          Holds point meas timestamp now
  | _ => True

/-- An event is put on the queue once, with the time that it is to have. -/
def RecordsTime (action : OutstationAction) : Prop :=
  outstation.OfQueued (fun point meas timestamp now =>
    (outstation.step conf action).1.pointTable.soe.binaryTimeTaggedEventQueue =
      outstation.pointTable.soe.binaryTimeTaggedEventQueue ++
        [SOEQueue.eventOf point meas (recordTime now timestamp)]) action

/-- The time stamps of the events that are put on the queue are kept. -/
def KeepsTime (action : OutstationAction) : Prop :=
  outstation.OfQueued (fun _ _ timestamp now => KeptTime now timestamp) action

variable {conf} {outstation}

/-- The record of an event. -/
theorem queue_event (override : conf.overrideOldTimeStamps = true) {index : Nat} {meas : Bool}
    {timestamp now : Nat} {point : CBBinaryPoint} (enabled : outstation.enabled = true)
    (isOutstation : outstation.pointTable.isOutstation = true)
    (room : HasRoom outstation.pointTable.soe)
    (found : outstation.pointTable.binary.odcPointMap index = some point)
    (soe : point.soePoint = true) :
    (outstation.step conf (.event (.Binary index meas timestamp)
        now)).1.pointTable.soe.binaryTimeTaggedEventQueue =
      outstation.pointTable.soe.binaryTimeTaggedEventQueue ++
        [SOEQueue.eventOf point meas (overriddenTime now timestamp)] := by
  have queued : outstation.pointTable.queuedEvent index meas (overriddenTime now timestamp) =
      some (SOEQueue.eventOf point meas (overriddenTime now timestamp)) := by
    have accepted : (point.soePoint && outstation.pointTable.isOutstation &&
        decide (HasRoom outstation.pointTable.soe)) = true := by
      rw [soe, isOutstation, decide_eq_true room]
      rfl
    rw [PointTable.queuedEvent, found]
    exact if_pos accepted
  have time : (if conf.overrideOldTimeStamps && decide (SecondsNear now timestamp) then now
      else timestamp) = overriddenTime now timestamp := by
    simp only [override, Bool.true_and, decide_eq_true_eq, overriddenTime]
  have stored := PointTable.setBinaryValueUsingODCIndex_queues queued now
  rw [← time] at stored ⊢
  simp only [step, event, enabled, Bool.not_true, Bool.false_eq_true, if_false]
  exact stored

/-- **A step has the right time** exactly when the time stamp is kept. -/
theorem recordsTime_iff (override : conf.overrideOldTimeStamps = true) (action : OutstationAction) :
    outstation.RecordsTime conf action ↔ outstation.KeepsTime action := by
  unfold RecordsTime KeepsTime OfQueued
  split
  · next index meas timestamp now =>
      refine forall_congr' fun enabled => forall_congr' fun isOutstation =>
        forall_congr' fun room => forall_congr' fun point => forall_congr' fun found =>
          forall_congr' fun soe => ?_
      have queued := @queue_event _ _ override index meas timestamp now point enabled isOutstation
        room found soe
      refine Iff.trans ?_ overriddenTime_eq_iff
      rw [queued]
      constructor
      · intro same
        have record := List.singleton_injective ((List.append_right_inj _).mp same)
        exact congrArg CBBinaryPoint.changedTime record
      · intro same
        rw [same]
  · exact Iff.rfl

end OpenDataCon.CBPort.CBOutstation

/-! ## MD3 -/

namespace OpenDataCon.MD3Port.BinaryOutstation

open Outstations Runs

variable (outstation : BinaryOutstation)

/-- What holds of the events that are put on the queue: those of a time-tagged point that
come to an enabled outstation with room on its queue. -/
def OfQueued (Holds : MD3PointKey → Nat → BinaryEvent → Prop) : BinaryInput → Prop
  | .event now event =>
    outstation.enabled = true → HasRoom outstation.table →
      ∀ key ∈ outstation.table.layout.findODC event.index, key.pointType = .TIMETAGGEDINPUT →
        Holds key now event
  | _ => True

/-- An event is put on the queue once, with its value and the time that it is to have. -/
def RecordsTime (input : BinaryInput) : Prop :=
  outstation.OfQueued (fun key now event => ∃ entry : MD3BinaryPoint,
    (entry.toMD3PointKey = key ∧ entry.binary = event.value ∧
      entry.changedTime = recordTime now event.timestamp) ∧
    (outstation.step input).1.table.binaryTimeTaggedEventQueue =
      outstation.table.binaryTimeTaggedEventQueue ++ [entry]) input

/-- The time stamps of the events that are put on the queue are kept. -/
def KeepsTime (input : BinaryInput) : Prop :=
  outstation.OfQueued (fun _ now event => KeptTime now event.timestamp) input

variable {outstation}

theorem eventTime_of_override (override : outstation.overrideOldTimeStamps = true) (now : Nat)
    (event : BinaryEvent) :
    outstation.eventTime now event = overriddenTime now event.timestamp :=
  if_congr (and_iff_right override) rfl rfl

/-- The entry of an event has its value, and the time that it was stored with. -/
theorem entryOf_value {table : BinaryTable} {key : MD3PointKey} (member : key ∈ table.layout.keys)
    (meas : Bool) (eventtime : Nat) :
    (table.modify key.md3Index (·.setBinary meas eventtime)).value key.md3Index =
      (table.value key.md3Index).setBinary meas eventtime := by
  rw [BinaryTable.value_modify_key member member, if_pos rfl]

theorem entryOf_binary {table : BinaryTable} {key : MD3PointKey} (member : key ∈ table.layout.keys)
    (meas : Bool) (eventtime : Nat) : (entryOf table key meas eventtime).binary = meas :=
  congrArg PointValue.binary (entryOf_value member meas eventtime)

theorem entryOf_changedTime {table : BinaryTable} {key : MD3PointKey}
    (member : key ∈ table.layout.keys) (meas : Bool) (eventtime : Nat) :
    (entryOf table key meas eventtime).changedTime = eventtime :=
  congrArg PointValue.changedTime (entryOf_value member meas eventtime)

theorem recordsTime_iff (override : outstation.overrideOldTimeStamps = true)
    (isOutstation : outstation.table.isOutstation = true) (input : BinaryInput) :
    outstation.RecordsTime input ↔ outstation.KeepsTime input := by
  unfold RecordsTime KeepsTime OfQueued
  split
  · next now event =>
      refine forall_congr' fun enabled => forall_congr' fun room => forall_congr' fun key =>
        forall_congr' fun found => forall_congr' fun tagged => ?_
      have queued := @queue_event _ now _ _ enabled found isOutstation tagged room
      have member := (BinaryLayout.findODC_eq_some.mp found).1
      rw [eventTime_of_override override] at queued
      refine Iff.trans ?_ overriddenTime_eq_iff
      constructor
      · rintro ⟨entry, ⟨-, -, time⟩, pushed⟩
        have record := List.singleton_injective
          ((List.append_right_inj _).mp (queued.symm.trans pushed))
        rw [← record] at time
        exact (entryOf_changedTime member _ _).symm.trans time
      · intro same
        rw [same] at queued
        exact ⟨_, ⟨rfl, entryOf_binary member _ _, entryOf_changedTime member _ _⟩, queued⟩
  · exact Iff.rfl

end OpenDataCon.MD3Port.BinaryOutstation

/-! ## Both -/

namespace OpenDataCon.Outstations

open Runs

/-- **When old time stamps are replaced rightly.** With old time stamps replaced, in every run of
an outstation of either kind every event that is put on the queue has its own time, if that is
within thirty minutes of the arrival, and else the time of the arrival, if and only if every
such event has the time of its arrival, or is within thirty minutes of it when the seconds are
not. -/
theorem oldTimeStamps_iff (conf : CBPort.CBOutstationConf)
    (override : conf.overrideOldTimeStamps = true) (cb : CBPort.CBOutstation)
    (actions : List CBPort.CBOutstation.OutstationAction) (md3 : MD3Port.BinaryOutstation)
    (md3Override : md3.overrideOldTimeStamps = true)
    (isOutstation : md3.table.isOutstation = true) (inputs : List MD3Port.BinaryInput) :
    (Guarded (CBPort.CBOutstation.step conf) (CBPort.CBOutstation.RecordsTime conf) cb actions ↔
      Guarded (CBPort.CBOutstation.step conf) CBPort.CBOutstation.KeepsTime cb actions) ∧
    (Guarded MD3Port.BinaryOutstation.step MD3Port.BinaryOutstation.RecordsTime md3 inputs ↔
      Guarded MD3Port.BinaryOutstation.step MD3Port.BinaryOutstation.KeepsTime md3 inputs) := by
  constructor
  · constructor
    · intro guarded
      refine guarded.of_invariant (fun _ => True) (fun _ _ _ _ => trivial) ?_ trivial
      intro state action _ records
      exact (CBPort.CBOutstation.recordsTime_iff override action).mp records
    · intro guarded
      refine guarded.of_invariant (fun _ => True) (fun _ _ _ _ => trivial) ?_ trivial
      intro state action _ keeps
      exact (CBPort.CBOutstation.recordsTime_iff override action).mpr keeps
  · have kept : ∀ (state : MD3Port.BinaryOutstation) (input : MD3Port.BinaryInput),
        state.overrideOldTimeStamps = true ∧ state.table.isOutstation = true →
          (state.step input).1.overrideOldTimeStamps = true ∧
            (state.step input).1.table.isOutstation = true := by
      rintro state input ⟨overrides, station⟩
      exact ⟨(MD3Port.BinaryOutstation.step_overrideOldTimeStamps input).trans overrides,
        MD3Port.BinaryOutstation.step_isOutstation station input⟩
    constructor
    · intro guarded
      refine guarded.of_invariant _ (fun state input start _ => kept state input start) ?_
        ⟨md3Override, isOutstation⟩
      rintro state input ⟨overrides, station⟩ records
      exact (MD3Port.BinaryOutstation.recordsTime_iff overrides station input).mp records
    · intro guarded
      refine guarded.of_invariant _ (fun state input start _ => kept state input start) ?_
        ⟨md3Override, isOutstation⟩
      rintro state input ⟨overrides, station⟩ keeps
      exact (MD3Port.BinaryOutstation.recordsTime_iff overrides station input).mpr keeps

/-- An outstation with one SOE point. -/
def soeStation : CBPort.CBOutstation where
  pointTable :=
    { binary := @CBPort.PointMaps.insert CBPort.CBBinaryPoint {} 0 0 { soePoint := true } }

open MD3Port in
/-- An outstation with one time-tagged point. -/
def taggedStation : MD3Port.BinaryOutstation where
  overrideOldTimeStamps := true
  table :=
    { layout := MD3Port.processBinaryPoints
        [{ start := 0, stop := 0, module := 2, pointType := .TIMETAGGEDINPUT }] {}
      isOutstation := true }

/-- An event that comes at its time. -/
theorem oldTimeStamps_iff_atOnce :
    Guarded (CBPort.CBOutstation.step { overrideOldTimeStamps := true })
        (CBPort.CBOutstation.RecordsTime { overrideOldTimeStamps := true }) soeStation
        [.event (.Binary 0 true 9000000) 9000000] ∧
      Guarded MD3Port.BinaryOutstation.step MD3Port.BinaryOutstation.RecordsTime taggedStation
        [.event 9000000 ⟨0, true, 9000000⟩] := by
  have both := oldTimeStamps_iff { overrideOldTimeStamps := true } rfl soeStation
    [.event (.Binary 0 true 9000000) 9000000] taggedStation rfl rfl
    [.event 9000000 ⟨0, true, 9000000⟩]
  refine ⟨both.1.mpr ⟨?_, trivial⟩, both.2.mpr ⟨?_, trivial⟩⟩
  · intro _ _ _ point _ _
    exact .inl rfl
  · intro _ _ key _ _
    exact .inl rfl

/-- An event of a minute ago loses its time, and one of more than two hours ago keeps it. -/
theorem oldTimeStamps_inverted :
    (¬Guarded (CBPort.CBOutstation.step { overrideOldTimeStamps := true })
        (CBPort.CBOutstation.RecordsTime { overrideOldTimeStamps := true }) soeStation
        [.event (.Binary 0 true 8940000) 9000000] ∧
      ¬Guarded (CBPort.CBOutstation.step { overrideOldTimeStamps := true })
        (CBPort.CBOutstation.RecordsTime { overrideOldTimeStamps := true }) soeStation
        [.event (.Binary 0 true 1000000) 9000000]) ∧
      ¬Guarded MD3Port.BinaryOutstation.step MD3Port.BinaryOutstation.RecordsTime taggedStation
        [.event 9000000 ⟨0, true, 8940000⟩] ∧
      ¬Guarded MD3Port.BinaryOutstation.step MD3Port.BinaryOutstation.RecordsTime taggedStation
        [.event 9000000 ⟨0, true, 1000000⟩] := by
  have cb : ∀ timestamp, ¬KeptTime 9000000 timestamp →
      ¬Guarded (CBPort.CBOutstation.step { overrideOldTimeStamps := true })
        (CBPort.CBOutstation.RecordsTime { overrideOldTimeStamps := true }) soeStation
        [.event (.Binary 0 true timestamp) 9000000] := by
    intro timestamp altered guarded
    exact altered ((CBPort.CBOutstation.recordsTime_iff rfl _).mp guarded.1 rfl rfl (by decide)
      { soePoint := true } rfl rfl)
  have md3 : ∀ timestamp, ¬KeptTime 9000000 timestamp →
      ¬Guarded MD3Port.BinaryOutstation.step MD3Port.BinaryOutstation.RecordsTime taggedStation
        [.event 9000000 ⟨0, true, timestamp⟩] := by
    intro timestamp altered guarded
    have found : (⟨0, 2, 0, 0, .TIMETAGGEDINPUT⟩ : MD3Port.MD3PointKey) ∈
        taggedStation.table.layout.findODC 0 := by decide
    exact altered ((MD3Port.BinaryOutstation.recordsTime_iff rfl rfl _).mp guarded.1 rfl (by decide)
      _ found rfl)
  exact ⟨⟨cb _ (by decide), cb _ (by decide)⟩, md3 _ (by decide), md3 _ (by decide)⟩

end OpenDataCon.Outstations
