import OpenDataCon.Connectors.MultiCallback
import OpenDataCon.Foundations.NewestEntries
import OpenDataCon.MD3Port.DigitalPoints

/-!
# Binary events in and out of order

An outstation is given binary events with their times, and between them its queue and its modules
are scanned. An event that is older than the last one of its point is to be put on the queue of
changes and to leave the current value alone. The table compares no times: it stores every event,
and then queues the point as it is.

So the queue has every event as it came, and the word of its module with it. The current values
are those of the newest events exactly when, for each point, no event comes after a newer one
(`binaryEvents_newest`).
-/

set_option autoImplicit false

namespace OpenDataCon.MD3Port

open Connectors NewestEntries Runs

/-! ## Events at an outstation -/

/-- A binary event: the ODC index, the value, and when it was. -/
structure BinaryEvent where
  index : Nat
  value : Bool
  timestamp : Nat
deriving DecidableEq, Repr

/-- An outstation and its binary points, with a record of the events that it has received. -/
structure BinaryOutstation where
  enabled : Bool := true
  overrideOldTimeStamps : Bool := false
  table : BinaryTable
  received : List BinaryEvent := []

/-- An event, and what else happens to the points: an event is taken from the queue, a module is
scanned, and all points are marked to be sent again. -/
inductive BinaryInput where
  | enable (enabled : Bool)
  | event (now : Nat) (event : BinaryEvent)
  | popNextTaggedEventPoint
  | collectModule (moduleAddress : Nat)
  | markAllBinaryPointsAsChanged
deriving DecidableEq, Repr

namespace BinaryOutstation

/-- The time of an event is replaced by the current one when the two are near each other, if times
are replaced at all. -/
def Overridden (outstation : BinaryOutstation) (now : Nat) (event : BinaryEvent) : Prop :=
  outstation.overrideOldTimeStamps = true ∧
    (((now / 1000 : Nat) : Int) - ((event.timestamp / 1000 : Nat) : Int)).natAbs < 60 * 30

instance (outstation : BinaryOutstation) (now : Nat) (event : BinaryEvent) :
    Decidable (outstation.Overridden now event) :=
  inferInstanceAs (Decidable (_ ∧ _))

def eventTime (outstation : BinaryOutstation) (now : Nat) (event : BinaryEvent) : Nat :=
  if outstation.Overridden now event then now else event.timestamp

/-- The branch of `Event_` for binary events. -/
def event_ (outstation : BinaryOutstation) (now : Nat) (event : BinaryEvent) :
    BinaryOutstation × CommandStatus :=
  if !outstation.enabled then (outstation, .UNDEFINED)
  else
    let set := outstation.table.setBinaryValueUsingODCIndex event.index event.value
      (outstation.eventTime now event)
    ({ outstation with table := set.1, received := outstation.received ++ [event] },
      if set.2 then .SUCCESS else .UNDEFINED)

/-- The outputs are the statuses that events are answered with. -/
def step (outstation : BinaryOutstation) : BinaryInput → BinaryOutstation × List CommandStatus
  | .enable enabled => ({ outstation with enabled }, [])
  | .event now event =>
    let handled := outstation.event_ now event
    (handled.1, [handled.2])
  | .popNextTaggedEventPoint =>
    ({ outstation with table := { outstation.table with
        binaryTimeTaggedEventQueue := outstation.table.binaryTimeTaggedEventQueue.tail } }, [])
  | .collectModule moduleAddress =>
    ({ outstation with
        table := (outstation.table.collectModuleBitsIntoWordandResetChangeFlags
          moduleAddress).1 }, [])
  | .markAllBinaryPointsAsChanged =>
    ({ outstation with table := outstation.table.markAllBinaryPointsAsChanged }, [])

/-! ## What is to hold -/

/-- An event is the newest of its point among those received. -/
abbrev IsNewestEvent (received : List BinaryEvent) (index : Nat) (event : BinaryEvent) : Prop :=
  IsNewest BinaryEvent.index BinaryEvent.timestamp received index event

/-- Every point that has received an event has the value and the time of a newest one. -/
def Newest (outstation : BinaryOutstation) : Prop :=
  ∀ key ∈ outstation.table.layout.keys, Named BinaryEvent.index outstation.received key.index →
    ∃ event, IsNewestEvent outstation.received key.index event ∧
      (outstation.table.value key.md3Index).binary = event.value ∧
      (outstation.table.value key.md3Index).changedTime = event.timestamp

/-- The queue has a place beside the last one, which is for the marker of an overflow. -/
def HasRoom (table : BinaryTable) : Prop :=
  table.binaryTimeTaggedEventQueue.length < BinaryTimeTaggedEventQueueSize - 1

instance (table : BinaryTable) : Decidable (HasRoom table) := Nat.decLt ..

/-- An entry of the queue is the event of a point: its own value and time, and the word of the
module with the value in its channel and the current values in the others. -/
structure IsQueued (table : BinaryTable) (key : MD3PointKey) (event : BinaryEvent)
    (entry : MD3BinaryPoint) : Prop where
  point : entry.toMD3PointKey = key
  value : entry.binary = event.value
  time : entry.changedTime = event.timestamp
  own : entry.moduleBinarySnapShot.getLsbD (15 - key.channel) = event.value
  others : ∀ other ∈ table.layout.keys, other.moduleAddress = key.moduleAddress → other ≠ key →
    entry.moduleBinarySnapShot.getLsbD (15 - other.channel) = (table.value other.md3Index).binary
  unused : ∀ channel < 16, table.layout.findMD3 key.moduleAddress channel = none →
    entry.moduleBinarySnapShot.getLsbD (15 - channel) = false

/-- The events received that were not after a time. -/
def receivedUpTo (outstation : BinaryOutstation) (time : Nat) : List BinaryEvent :=
  outstation.received.filter (·.timestamp ≤ time)

/-- The word of an entry is that of the time of its event: each of the other points of the module
that had received events up to that time has the value of a newest of these. -/
def HasWordOfItsTime (outstation : BinaryOutstation) (key : MD3PointKey) (event : BinaryEvent)
    (entry : MD3BinaryPoint) : Prop :=
  ∀ other ∈ outstation.table.layout.keys, other.moduleAddress = key.moduleAddress → other ≠ key →
    Named BinaryEvent.index (outstation.receivedUpTo event.timestamp) other.index →
      ∃ last, IsNewestEvent (outstation.receivedUpTo event.timestamp) other.index last ∧
        entry.moduleBinarySnapShot.getLsbD (15 - other.channel) = last.value

/-- An event of a time-tagged point is queued once, at a queue that has room, as an entry with a
property. -/
def QueuedAs (outstation after : BinaryOutstation) (event : BinaryEvent)
    (Good : MD3PointKey → MD3BinaryPoint → Prop) : Prop :=
  ∀ key ∈ outstation.table.layout.findODC event.index, key.pointType = .TIMETAGGEDINPUT →
    HasRoom outstation.table →
      ∃ entry, Good key entry ∧
        after.table.binaryTimeTaggedEventQueue =
          outstation.table.binaryTimeTaggedEventQueue ++ [entry]

/-- After an input the points have the values of the newest events, and if it was an event that
the outstation receives, it was queued. -/
def Correct (outstation : BinaryOutstation) (input : BinaryInput) : Prop :=
  (outstation.step input).1.Newest ∧
    match input with
    | .event _ event =>
      outstation.enabled = true →
        outstation.QueuedAs (outstation.step input).1 event (IsQueued outstation.table · event ·)
    | _ => True

/-- An event that was received is queued with the word of its time. -/
def CorrectWord (outstation : BinaryOutstation) : BinaryInput → Prop
  | .event now event =>
    outstation.enabled = true →
      outstation.QueuedAs (outstation.step (.event now event)).1 event
        (outstation.HasWordOfItsTime · event ·)
  | _ => True

/-! ## The order of events -/

/-- An event of a point comes after no newer one, its time is not replaced by another one, and where
it is queued without the word of its module that word is zero. -/
structure InOrderEvent (outstation : BinaryOutstation) (now : Nat) (event : BinaryEvent)
    (key : MD3PointKey) : Prop where
  newest : ∀ other ∈ outstation.received, other.index = event.index →
    other.timestamp ≤ event.timestamp
  kept : outstation.Overridden now event → now = event.timestamp
  word : key.pointType = .TIMETAGGEDINPUT → HasRoom outstation.table →
    outstation.table.newDigitalCommands = false →
      event.value = false ∧ ∀ other ∈ outstation.table.layout.keys,
        other.moduleAddress = key.moduleAddress → other ≠ key →
          (outstation.table.value other.md3Index).binary = false

/-- Every event of a point that is received is in order. -/
def InOrder (outstation : BinaryOutstation) : BinaryInput → Prop
  | .event now event =>
    outstation.enabled = true →
      ∀ key ∈ outstation.table.layout.findODC event.index, outstation.InOrderEvent now event key
  | _ => True

/-- No event comes after a newer one of its module. -/
def ModuleInOrder (outstation : BinaryOutstation) : BinaryInput → Prop
  | .event _ event =>
    ∀ key ∈ outstation.table.layout.findODC event.index,
      ∀ other ∈ outstation.table.layout.keys, other.moduleAddress = key.moduleAddress →
        ∀ earlier ∈ outstation.received, earlier.index = other.index →
          earlier.timestamp ≤ event.timestamp
  | _ => True

end BinaryOutstation

/-! ## Storing an event -/

namespace BinaryTable

section Queued

variable (table : BinaryTable) (key : MD3PointKey)

/-- What an event puts on the queue. -/
def pushedEvents : List MD3BinaryPoint :=
  if key.pointType = .TIMETAGGEDINPUT then
    if table.binaryTimeTaggedEventQueue.length < BinaryTimeTaggedEventQueueSize - 1 then
      [table.pointWith key
        (if table.newDigitalCommands then table.collectModuleBitsIntoWord key.moduleAddress
          else 0#16)]
    else if table.binaryTimeTaggedEventQueue.length < BinaryTimeTaggedEventQueueSize then
      [MD3BinaryPoint.overFlowMarkerPoint]
    else []
  else []

theorem addToDigitalEvents_eq :
    table.addToDigitalEvents key =
      { table with
        binaryTimeTaggedEventQueue :=
          table.binaryTimeTaggedEventQueue ++ table.pushedEvents key } := by
  unfold addToDigitalEvents pushedEvents
  dsimp only
  split_ifs <;> simp only [List.append_nil]

variable {table key}

/-- A point that is stored is changed, and then its event is queued. -/
theorem setBinaryValueUsingODCIndex_found {index : Nat}
    (found : table.layout.findODC index = some key) (isOutstation : table.isOutstation = true)
    (meas : Bool) (eventtime : Nat) :
    let set := table.modify key.md3Index (·.setBinary meas eventtime)
    table.setBinaryValueUsingODCIndex index meas eventtime =
      ({ set with
          binaryTimeTaggedEventQueue :=
            table.binaryTimeTaggedEventQueue ++ set.pushedEvents key }, true) := by
  intro set
  rw [setBinaryValueUsingODCIndex, found]
  dsimp only
  rw [modify_isOutstation, if_pos isOutstation, addToDigitalEvents_eq]
  rfl

theorem setBinaryValueUsingODCIndex_missing {index : Nat}
    (missing : table.layout.findODC index = none) (meas : Bool) (eventtime : Nat) :
    table.setBinaryValueUsingODCIndex index meas eventtime = (table, false) := by
  rw [setBinaryValueUsingODCIndex, missing]

/-- The value of a point after one was changed. -/
theorem value_modify_key {other : MD3PointKey} (isKey : key ∈ table.layout.keys)
    (isOther : other ∈ table.layout.keys) (change : PointValue → PointValue) :
    (table.modify key.md3Index change).value other.md3Index =
      if other = key then change (table.value key.md3Index) else table.value other.md3Index := by
  rw [modify_value]
  by_cases same : other = key
  · rw [if_pos same, if_pos (congrArg MD3PointKey.md3Index same)]
  · rw [if_neg same, if_neg]
    intro sameIndex
    exact same (BinaryLayout.eq_of_md3Index isOther isKey sameIndex)

/-- A channel without a point has no bit in the word. -/
theorem getLsbD_collect_unused {moduleAddress channel : Nat} (inModule : channel < 16)
    (unused : table.layout.findMD3 moduleAddress channel = none) :
    (table.collectModuleBitsIntoWord moduleAddress).getLsbD (15 - channel) = false := by
  rw [collectModuleBitsIntoWord,
    getLsbD_foldl_withChannel _ _ (fun j inside => List.mem_range.mp inside) _ inModule,
    getBinaryValueUsingMD3Index, unused]
  simp

/-- Values that differ in their marks at most. -/
def SameValue (first second : PointValue) : Prop :=
  first.binary = second.binary ∧ first.changedTime = second.changedTime

theorem visit_clearChanged_same (table : BinaryTable) (moduleAddress channel index : Nat) :
    SameValue ((table.visit moduleAddress channel clearChanged).value index)
      (table.value index) := by
  unfold visit
  cases table.layout.findMD3 moduleAddress channel with
  | none => exact ⟨rfl, rfl⟩
  | some other =>
      dsimp only
      rw [modify_value]
      split
      · next same =>
          rw [same]
          exact ⟨rfl, rfl⟩
      · exact ⟨rfl, rfl⟩

/-- Scanning a module clears marks, and changes no value or time. -/
theorem collectReset_same (table : BinaryTable) (moduleAddress index : Nat) :
    SameValue ((table.collectModuleBitsIntoWordandResetChangeFlags moduleAddress).1.value index)
      (table.value index) := by
  rw [collectModuleBitsIntoWordandResetChangeFlags_eq]
  generalize List.range 16 = channels
  induction channels generalizing table with
  | nil => exact ⟨rfl, rfl⟩
  | cons channel rest ih =>
      obtain ⟨binary, time⟩ := ih (table.visit moduleAddress channel clearChanged)
      obtain ⟨binaryFirst, timeFirst⟩ := visit_clearChanged_same table moduleAddress channel index
      exact ⟨binary.trans binaryFirst, time.trans timeFirst⟩

theorem markAll_same (table : BinaryTable) (index : Nat) :
    SameValue (table.markAllBinaryPointsAsChanged.value index) (table.value index) := by
  dsimp only [markAllBinaryPointsAsChanged]
  split <;> exact ⟨rfl, rfl⟩

end Queued

end BinaryTable

namespace BinaryOutstation

section Steps

variable {outstation : BinaryOutstation}

/-- What an event of a point changes. -/
theorem event_found {now : Nat} {event : BinaryEvent} {key : MD3PointKey}
    (enabled : outstation.enabled = true)
    (found : outstation.table.layout.findODC event.index = some key)
    (isOutstation : outstation.table.isOutstation = true) :
    let set := outstation.table.modify key.md3Index
      (·.setBinary event.value (outstation.eventTime now event))
    outstation.event_ now event =
      ({ outstation with
          table := { set with
            binaryTimeTaggedEventQueue :=
              outstation.table.binaryTimeTaggedEventQueue ++ set.pushedEvents key }
          received := outstation.received ++ [event] }, .SUCCESS) := by
  intro set
  rw [event_, enabled, BinaryTable.setBinaryValueUsingODCIndex_found found isOutstation]
  rfl

theorem event_missing {now : Nat} {event : BinaryEvent} (enabled : outstation.enabled = true)
    (missing : outstation.table.layout.findODC event.index = none) :
    outstation.event_ now event =
      ({ outstation with received := outstation.received ++ [event] }, .UNDEFINED) := by
  rw [event_, enabled, BinaryTable.setBinaryValueUsingODCIndex_missing missing]
  rfl

theorem event_disabled {now : Nat} {event : BinaryEvent} (disabled : outstation.enabled = false) :
    outstation.event_ now event = (outstation, .UNDEFINED) := by
  rw [event_, disabled]
  rfl

/-- The queue and the marks do not matter. -/
theorem Newest.withTable (newest : outstation.Newest) {table : BinaryTable}
    (sameLayout : table.layout = outstation.table.layout)
    (sameValues : ∀ index, BinaryTable.SameValue (table.value index)
      (outstation.table.value index)) : Newest { outstation with table } := by
  intro key member named
  rw [sameLayout] at member
  obtain ⟨event, isNewest, value, time⟩ := newest key member named
  obtain ⟨sameBinary, sameTime⟩ := sameValues key.md3Index
  exact ⟨event, isNewest, sameBinary.trans value, sameTime.trans time⟩

/-- The time that is stored. -/
theorem InOrderEvent.eventTime_eq {now : Nat} {event : BinaryEvent} {key : MD3PointKey}
    (inOrder : outstation.InOrderEvent now event key) :
    outstation.eventTime now event = event.timestamp := by
  unfold eventTime
  split
  · next overridden => exact inOrder.kept overridden
  · rfl

/-- **An event in order is the newest of its point**, and the other points are as before. -/
theorem InOrderEvent.newest_after {now : Nat} {event : BinaryEvent} {key : MD3PointKey}
    (inOrder : outstation.InOrderEvent now event key) (newest : outstation.Newest)
    (enabled : outstation.enabled = true)
    (found : outstation.table.layout.findODC event.index = some key)
    (isOutstation : outstation.table.isOutstation = true) :
    (outstation.event_ now event).1.Newest := by
  obtain ⟨member, named⟩ := BinaryLayout.findODC_eq_some.mp found
  rw [event_found enabled found isOutstation]
  intro other isOther isNamed
  dsimp only [BinaryTable.modify_layout] at isOther isNamed ⊢
  rw [BinaryTable.value_modify_key member isOther]
  by_cases same : other = key
  · subst same
    rw [if_pos rfl, named]
    refine ⟨event, isNewest_append_self ?_, rfl, inOrder.eventTime_eq⟩
    exact inOrder.newest
  · have apart : event.index ≠ other.index := by
      intro sameIndex
      rw [BinaryLayout.findODC_eq_some.mpr ⟨isOther, sameIndex.symm⟩] at found
      exact same (Option.some_inj.mp found)
    rw [if_neg same]
    obtain ⟨last, isNewest, value, time⟩ :=
      newest other isOther ((named_append_of_ne apart).mp isNamed)
    exact ⟨last, (isNewest_append_of_ne apart).mpr isNewest, value, time⟩

/-- The entry that an event of a point puts on a queue with room. -/
def entryOf (table : BinaryTable) (key : MD3PointKey) (meas : Bool) (eventtime : Nat) :
    MD3BinaryPoint :=
  let set := table.modify key.md3Index (·.setBinary meas eventtime)
  set.pointWith key
    (if table.newDigitalCommands then set.collectModuleBitsIntoWord key.moduleAddress else 0#16)

/-- **The entry is the event** when its time is kept and the word of its module is not missed. -/
theorem isQueued_entryOf {table : BinaryTable} {key : MD3PointKey}
    (member : key ∈ table.layout.keys) (event : BinaryEvent) (eventtime : Nat) :
    IsQueued table key event (entryOf table key event.value eventtime) ↔
      eventtime = event.timestamp ∧ (table.newDigitalCommands = false →
        event.value = false ∧ ∀ other ∈ table.layout.keys,
          other.moduleAddress = key.moduleAddress → other ≠ key →
            (table.value other.md3Index).binary = false) := by
  set set := table.modify key.md3Index (·.setBinary event.value eventtime) with isSet
  have own : set.value key.md3Index =
      (table.value key.md3Index).setBinary event.value eventtime := by
    rw [isSet, BinaryTable.value_modify_key member member, if_pos rfl]
  have others : ∀ other ∈ table.layout.keys, other ≠ key →
      set.value other.md3Index = table.value other.md3Index := by
    intro other isOther apart
    rw [isSet, BinaryTable.value_modify_key member isOther, if_neg apart]
  have time : (entryOf table key event.value eventtime).changedTime = eventtime := by
    change (set.value key.md3Index).changedTime = eventtime
    rw [own]
    rfl
  have value : (entryOf table key event.value eventtime).binary = event.value := by
    change (set.value key.md3Index).binary = event.value
    rw [own]
    rfl
  cases new : table.newDigitalCommands with
  | true =>
      have word : (entryOf table key event.value eventtime).moduleBinarySnapShot =
          set.collectModuleBitsIntoWord key.moduleAddress := by
        change (if table.newDigitalCommands then _ else _) = _
        rw [new]
        rfl
      constructor
      · intro queued
        exact ⟨time.symm.trans queued.time, fun old => nomatch old⟩
      · rintro ⟨kept, -⟩
        refine ⟨rfl, value, time.trans kept, ?_, ?_, ?_⟩
        · rw [word, set.getLsbD_collectModuleBitsIntoWord member, own]
          rfl
        · intro other isOther sameModule apart
          rw [word, ← sameModule, set.getLsbD_collectModuleBitsIntoWord isOther,
            others other isOther apart]
        · intro channel inModule unused
          rw [word]
          exact BinaryTable.getLsbD_collect_unused inModule unused
  | false =>
      have word : (entryOf table key event.value eventtime).moduleBinarySnapShot = 0#16 := by
        change (if table.newDigitalCommands then _ else _) = _
        rw [new]
        rfl
      constructor
      · intro queued
        refine ⟨time.symm.trans queued.time, fun _ => ⟨?_, ?_⟩⟩
        · rw [← queued.own, word, BitVec.getLsbD_zero]
        · intro other isOther sameModule apart
          rw [← queued.others other isOther sameModule apart, word, BitVec.getLsbD_zero]
      · rintro ⟨kept, zero⟩
        obtain ⟨off, allOff⟩ := zero rfl
        refine ⟨rfl, value, time.trans kept, ?_, ?_, ?_⟩
        · rw [word, BitVec.getLsbD_zero, off]
        · intro other isOther sameModule apart
          rw [word, BitVec.getLsbD_zero, allOff other isOther sameModule apart]
        · intro channel _ _
          rw [word, BitVec.getLsbD_zero]

/-- A queue with room takes the entry of the event. -/
theorem queue_event {now : Nat} {event : BinaryEvent} {key : MD3PointKey}
    (enabled : outstation.enabled = true)
    (found : outstation.table.layout.findODC event.index = some key)
    (isOutstation : outstation.table.isOutstation = true)
    (tagged : key.pointType = .TIMETAGGEDINPUT) (room : HasRoom outstation.table) :
    (outstation.event_ now event).1.table.binaryTimeTaggedEventQueue =
      outstation.table.binaryTimeTaggedEventQueue ++
        [entryOf outstation.table key event.value (outstation.eventTime now event)] := by
  rw [event_found enabled found isOutstation]
  dsimp only
  rw [BinaryTable.pushedEvents, if_pos tagged]
  exact congrArg _ (if_pos room)

/-- **An event is queued once** exactly when its time is kept and its word is not missed. -/
theorem queuedAs_iff {now : Nat} {event : BinaryEvent} (enabled : outstation.enabled = true)
    (isOutstation : outstation.table.isOutstation = true) :
    outstation.QueuedAs (outstation.event_ now event).1 event
        (IsQueued outstation.table · event ·) ↔
      ∀ key ∈ outstation.table.layout.findODC event.index, key.pointType = .TIMETAGGEDINPUT →
        HasRoom outstation.table → outstation.eventTime now event = event.timestamp ∧
          (outstation.table.newDigitalCommands = false →
            event.value = false ∧ ∀ other ∈ outstation.table.layout.keys,
              other.moduleAddress = key.moduleAddress → other ≠ key →
                (outstation.table.value other.md3Index).binary = false) := by
  refine forall_congr' fun key => forall_congr' fun found => forall_congr' fun tagged =>
    forall_congr' fun room => ?_
  have member := (BinaryLayout.findODC_eq_some.mp found).1
  rw [queue_event enabled found isOutstation tagged room, ← isQueued_entryOf member]
  constructor
  · rintro ⟨entry, isQueued, same⟩
    rw [List.append_right_inj, List.singleton_inj] at same
    rw [same]
    exact isQueued
  · intro isQueued
    exact ⟨_, isQueued, rfl⟩

/-- What holds of the points throughout a run in order. -/
structure Tracks (outstation : BinaryOutstation) : Prop where
  isOutstation : outstation.table.isOutstation = true
  newest : outstation.Newest

theorem event_isOutstation (tracks : outstation.table.isOutstation = true) (now : Nat)
    (event : BinaryEvent) : (outstation.event_ now event).1.table.isOutstation = true := by
  by_cases enabled : outstation.enabled = true
  · cases found : outstation.table.layout.findODC event.index with
    | none =>
        rw [event_missing enabled found]
        exact tracks
    | some key =>
        rw [event_found enabled found tracks]
        exact tracks
  · rw [event_disabled (Bool.eq_false_iff.mpr enabled)]
    exact tracks

theorem step_isOutstation (tracks : outstation.table.isOutstation = true) (input : BinaryInput) :
    (outstation.step input).1.table.isOutstation = true := by
  cases input with
  | enable _ => exact tracks
  | event now event => exact event_isOutstation tracks now event
  | popNextTaggedEventPoint => exact tracks
  | collectModule moduleAddress =>
      simp only [step]
      rw [BinaryTable.collectModuleBitsIntoWordandResetChangeFlags_eq,
        (BinaryTable.sameFrame_visitAll _ _ _).2.1]
      exact tracks
  | markAllBinaryPointsAsChanged => exact tracks

/-- An event in order keeps the points up to date, received or not. -/
theorem event_newest (tracks : outstation.Tracks) {now : Nat} {event : BinaryEvent}
    (inOrder : outstation.InOrder (.event now event)) :
    (outstation.event_ now event).1.Newest := by
  by_cases enabled : outstation.enabled = true
  · cases found : outstation.table.layout.findODC event.index with
    | none =>
        rw [event_missing enabled found]
        intro key member named
        have apart : event.index ≠ key.index := by
          intro same
          rw [BinaryLayout.findODC_eq_some.mpr ⟨member, same.symm⟩] at found
          cases found
        obtain ⟨last, isNewest, value, time⟩ :=
          tracks.newest key member ((named_append_of_ne apart).mp named)
        exact ⟨last, (isNewest_append_of_ne apart).mpr isNewest, value, time⟩
    | some key =>
        exact (inOrder enabled key found).newest_after tracks.newest enabled found
          tracks.isOutstation
  · rw [event_disabled (Bool.eq_false_iff.mpr enabled)]
    exact tracks.newest

/-- **A step in order is correct.** -/
theorem Tracks.correct (tracks : outstation.Tracks) {input : BinaryInput}
    (inOrder : outstation.InOrder input) : outstation.Correct input := by
  cases input with
  | enable _ => exact ⟨tracks.newest, trivial⟩
  | event now event =>
      refine ⟨event_newest tracks inOrder, ?_⟩
      intro enabled
      refine (queuedAs_iff enabled tracks.isOutstation).mpr ?_
      intro key found tagged room
      have here := inOrder enabled key found
      exact ⟨here.eventTime_eq, here.word tagged room⟩
  | popNextTaggedEventPoint =>
      exact ⟨tracks.newest.withTable rfl fun _ => ⟨rfl, rfl⟩, trivial⟩
  | collectModule moduleAddress =>
      have sameLayout : (outstation.table.collectModuleBitsIntoWordandResetChangeFlags
          moduleAddress).1.layout = outstation.table.layout := by
        rw [BinaryTable.collectModuleBitsIntoWordandResetChangeFlags_eq]
        exact (BinaryTable.sameFrame_visitAll _ _ _).1
      have sameValues := BinaryTable.collectReset_same outstation.table moduleAddress
      exact ⟨tracks.newest.withTable sameLayout sameValues, trivial⟩
  | markAllBinaryPointsAsChanged =>
      have sameValues := BinaryTable.markAll_same outstation.table
      exact ⟨tracks.newest.withTable rfl sameValues, trivial⟩

/-- **A correct step is in order**, where times are not replaced. -/
theorem Tracks.inOrder (tracks : outstation.Tracks)
    (noOverride : outstation.overrideOldTimeStamps = false) {input : BinaryInput}
    (correct : outstation.Correct input) : outstation.InOrder input := by
  cases input with
  | event now event =>
      intro enabled key found
      obtain ⟨newest, queued⟩ := correct
      obtain ⟨member, named⟩ := BinaryLayout.findODC_eq_some.mp found
      have kept : ¬outstation.Overridden now event := by
        intro overridden
        rw [Overridden, noOverride] at overridden
        exact Bool.false_ne_true overridden.1
      have sameTime : outstation.eventTime now event = event.timestamp := if_neg kept
      refine ⟨?_, fun overridden => absurd overridden kept, ?_⟩
      · have stored := newest key
        simp only [step] at stored
        rw [event_found enabled found tracks.isOutstation] at stored
        dsimp only [BinaryTable.modify_layout] at stored
        rw [BinaryTable.value_modify_key member member, if_pos rfl] at stored
        obtain ⟨last, isNewest, -, time⟩ := stored member
          ⟨event, List.mem_append_right _ (List.mem_singleton_self event), named.symm⟩
        intro other received same
        have older := isNewest.greatest other (List.mem_append_left _ received)
          (same.trans named.symm)
        rw [← time] at older
        exact Nat.le_trans older (Nat.le_of_eq sameTime)
      · intro tagged room
        exact ((queuedAs_iff enabled tracks.isOutstation).mp (queued enabled) key found tagged
          room).2
  | enable _ => trivial
  | popNextTaggedEventPoint => trivial
  | collectModule _ => trivial
  | markAllBinaryPointsAsChanged => trivial

/-- **A step in order of its module has the word of its time.** -/
theorem Tracks.correctWord (tracks : outstation.Tracks) {input : BinaryInput}
    (inOrder : outstation.InOrder input) (moduleInOrder : outstation.ModuleInOrder input) :
    outstation.CorrectWord input := by
  have correct := tracks.correct inOrder
  cases input with
  | event now event =>
      intro enabled key found tagged room
      obtain ⟨entry, isQueued, queue⟩ := correct.2 enabled key found tagged room
      refine ⟨entry, ?_, queue⟩
      intro other isOther sameModule apart named
      have upTo_received : ∀ earlier ∈ outstation.receivedUpTo event.timestamp,
          earlier ∈ outstation.received := by
        intro earlier member
        exact (List.mem_filter.mp member).1
      obtain ⟨earlier, member, index⟩ := named
      obtain ⟨last, isNewest, value, -⟩ :=
        tracks.newest other isOther ⟨earlier, upTo_received earlier member, index⟩
      have inTime := moduleInOrder key found other isOther sameModule last isNewest.member
        isNewest.named
      refine ⟨last, ⟨?_, isNewest.named, ?_⟩, ?_⟩
      · exact List.mem_filter.mpr ⟨isNewest.member, decide_eq_true inTime⟩
      · intro another here sameIndex
        exact isNewest.greatest another (upTo_received another here) sameIndex
      · exact (isQueued.others other isOther sameModule apart).trans value
  | enable _ => trivial
  | popNextTaggedEventPoint => trivial
  | collectModule _ => trivial
  | markAllBinaryPointsAsChanged => trivial

theorem Tracks.step (tracks : outstation.Tracks) {input : BinaryInput}
    (correct : outstation.Correct input) : (outstation.step input).1.Tracks :=
  ⟨step_isOutstation tracks.isOutstation input, correct.1⟩

theorem step_overrideOldTimeStamps (input : BinaryInput) :
    (outstation.step input).1.overrideOldTimeStamps = outstation.overrideOldTimeStamps := by
  cases input with
  | event now event =>
      simp only [BinaryOutstation.step, event_]
      split <;> rfl
  | enable _ => simp only [BinaryOutstation.step]
  | popNextTaggedEventPoint => simp only [BinaryOutstation.step]
  | collectModule _ => simp only [BinaryOutstation.step]
  | markAllBinaryPointsAsChanged => simp only [BinaryOutstation.step]

end Steps

/-! ## Runs -/

/-- **Values of the newest events.** In every run in which no event of a point comes after a newer
one, the points always have the values and times of the newest events, and every event of a
time-tagged point is queued once with its value, its time and the word of its module. If none comes
after a newer one of its module, that is the word of its time. Where times are not replaced, there
are no other runs in which all this holds. -/
theorem binaryEvents_newest (outstation : BinaryOutstation)
    (isOutstation : outstation.table.isOutstation = true) (fresh : outstation.received = [])
    (inputs : List BinaryInput) :
    (Guarded step InOrder outstation inputs → Guarded step Correct outstation inputs) ∧
      (Guarded step (fun state input => state.InOrder input ∧ state.ModuleInOrder input)
          outstation inputs → Guarded step CorrectWord outstation inputs) ∧
      (outstation.overrideOldTimeStamps = false → Guarded step Correct outstation inputs →
        Guarded step InOrder outstation inputs) := by
  have start : outstation.Tracks := by
    refine ⟨isOutstation, ?_⟩
    rintro key member ⟨event, received, named⟩
    rw [fresh] at received
    cases received
  refine ⟨?_, ?_, ?_⟩
  · intro guarded
    refine guarded.of_invariant Tracks ?_ ?_ start
    · intro state input tracks inOrder
      exact tracks.step (tracks.correct inOrder)
    · intro state input tracks inOrder
      exact tracks.correct inOrder
  · intro guarded
    refine guarded.of_invariant Tracks ?_ ?_ start
    · rintro state input tracks ⟨inOrder, -⟩
      exact tracks.step (tracks.correct inOrder)
    · rintro state input tracks ⟨inOrder, moduleInOrder⟩
      exact tracks.correctWord inOrder moduleInOrder
  · intro noOverride guarded
    refine guarded.of_invariant
      (fun state => state.Tracks ∧ state.overrideOldTimeStamps = false) ?_ ?_ ⟨start, noOverride⟩
    · rintro state input ⟨tracks, keeps⟩ correct
      exact ⟨tracks.step correct, (step_overrideOldTimeStamps input).trans keeps⟩
    · rintro state input ⟨tracks, keeps⟩ correct
      exact tracks.inOrder keeps correct

/-! ## Newer and older events -/

/-- Two time-tagged points of a module. -/
def twoTagged : BinaryOutstation where
  table :=
    { layout := processBinaryPoints
        [{ start := 0, stop := 1, module := 2, pointType := .TIMETAGGEDINPUT }] {}
      isOutstation := true }

/-- The time of an event goes on. -/
def newerEvent : List BinaryInput :=
  [.event 9000 { index := 0, value := true, timestamp := 1000 },
    .event 9500 { index := 0, value := false, timestamp := 2000 }]

/-- A newer event overtakes an older one. -/
def olderEvent : List BinaryInput :=
  [.event 9000 { index := 0, value := true, timestamp := 2000 },
    .event 9500 { index := 0, value := false, timestamp := 1000 }]

theorem newerEvent_inOrder :
    Guarded step (fun state input => state.InOrder input ∧ state.ModuleInOrder input) twoTagged
      newerEvent := by
  refine ⟨⟨?_, ?_⟩, ⟨?_, ?_⟩, trivial⟩
  · intro _ key found
    refine ⟨?_, fun overridden => absurd overridden (by decide), ?_⟩
    · intro other member
      cases member
    · exact fun _ _ old => absurd old (by decide)
  · intro key found other isOther sameModule earlier member
    cases member
  · intro _ key found
    refine ⟨?_, fun overridden => absurd overridden (by decide +kernel), ?_⟩
    · intro other member _
      rw [List.mem_singleton.mp member]
      decide
    · exact fun _ _ old => absurd old (by decide +kernel)
  · intro key found other isOther sameModule earlier member _
    rw [List.mem_singleton.mp member]
    decide

/-- Two events in their order. -/
theorem binaryEvents_newer :
    Guarded step Correct twoTagged newerEvent ∧ Guarded step CorrectWord twoTagged newerEvent ∧
      Guarded step InOrder twoTagged newerEvent := by
  obtain ⟨correct, word, inOrder⟩ := binaryEvents_newest twoTagged rfl rfl newerEvent
  have newer : Guarded step InOrder twoTagged newerEvent :=
    newerEvent_inOrder.of_invariant (fun _ => True) (fun _ _ _ _ => trivial)
      (fun _ _ _ both => both.1) trivial
  exact ⟨correct newer, word newerEvent_inOrder, inOrder rfl (correct newer)⟩

/-- After the older event the point has its value and its time. -/
theorem binaryEvents_older :
    ((run step twoTagged olderEvent).1.table.value 0x200).changedTime = 1000 ∧
      ¬Guarded step Correct twoTagged olderEvent := by
  have stored : ((run step twoTagged olderEvent).1.table.value 0x200).changedTime = 1000 := by
    decide +kernel
  refine ⟨stored, ?_⟩
  intro correct
  obtain ⟨last, isNewest, -, time⟩ := correct.2.1.1
    { index := 0, moduleAddress := 2, channel := 0, pointType := .TIMETAGGEDINPUT }
    (by decide +kernel) ⟨{ index := 0, value := true, timestamp := 2000 }, by decide +kernel, rfl⟩
  have newer := isNewest.greatest { index := 0, value := true, timestamp := 2000 }
    (by decide +kernel) rfl
  rw [← time] at newer
  exact absurd newer (by decide +kernel)

end BinaryOutstation

end OpenDataCon.MD3Port
