import OpenDataCon.CBPort.PointConf
import Mathlib.Data.List.Nodup

/-!
# SOE indexes of points

The record of an event names its point by the SOE index alone. The table of the
master finds the point again when no two SOE points have one SOE index and no
SOE index is above 120, and then only (`soeAddressing_iff`). The loader checks
the first SOE index of a range against that bound, not the indexes it goes on
to, and it enters a second point with a SOE index over the first one.

`SOEAssignment` is what a table holds after some additions. No operation of the
outstation changes it (`run_sameAddressing`).
-/

set_option autoImplicit false

namespace OpenDataCon.CBPort

open Runs

namespace PointTable

/-! ## The assignment -/

def PointCall.isBinary : PointCall → Bool
  | .binary .. => true
  | _ => false

/-- The SOE points that some additions make, each with its ODC index and its SOE
index. Only the first addition with an ODC index makes a point. -/
def soeAssignments : List Nat → List PointCall → List (Nat × Nat)
  | _, [] => []
  | known, .binary index _ _ _ _ isSOE soeIndex :: rest =>
    if index ∈ known then soeAssignments known rest
    else if isSOE then (index, soeIndex) :: soeAssignments (index :: known) rest
    else soeAssignments (index :: known) rest
  | known, _ :: rest => soeAssignments known rest

/-- What the maps of the binary points hold: the points with the known ODC
indexes, and for each SOE index one of the points that have it. -/
structure SOEAssignment (maps : PointMaps CBBinaryPoint) (soePointMap : Nat → Option Nat)
    (known : List Nat) (pairs : List (Nat × Nat)) : Prop where
  known : ∀ index, (maps.odcPointMap index).isSome ↔ index ∈ known
  own : ∀ index point, maps.odcPointMap index = some point → point.index = index
  points : ∀ index soeIndex, (index, soeIndex) ∈ pairs ↔
    ∃ point, maps.odcPointMap index = some point ∧ point.soePoint = true ∧
      point.soeIndex = soeIndex
  found : ∀ soeIndex index, soePointMap soeIndex = some index → (index, soeIndex) ∈ pairs
  total : ∀ index soeIndex, (index, soeIndex) ∈ pairs → (soePointMap soeIndex).isSome
  once : (pairs.map Prod.fst).Nodup

theorem soeAssignment_empty : SOEAssignment {} (fun _ => none) [] [] where
  known := by simp
  own := by simp
  points := by simp
  found := by simp
  total := by simp
  once := by simp

variable {maps : PointMaps CBBinaryPoint} {soePointMap : Nat → Option Nat} {known : List Nat}
  {pairs : List (Nat × Nat)}

/-- A point with a known ODC index is entered nowhere but at its CB index. -/
theorem SOEAssignment.insert_known (assignment : SOEAssignment maps soePointMap known pairs)
    {index : Nat} (isKnown : index ∈ known) (cbIndex : Nat) (point : CBBinaryPoint) :
    SOEAssignment (maps.insert cbIndex index point) soePointMap known pairs := by
  have same : (maps.insert cbIndex index point).odcPointMap = maps.odcPointMap := by
    simp [PointMaps.insert, (assignment.known index).mpr isKnown]
  exact ⟨by rw [same]; exact assignment.known, by rw [same]; exact assignment.own,
    by rw [same]; exact assignment.points, assignment.found, assignment.total, assignment.once⟩

/-- A new point is entered, and a SOE point at its SOE index too. -/
theorem SOEAssignment.insert_new (assignment : SOEAssignment maps soePointMap known pairs)
    {index : Nat} (isNew : index ∉ known) (cbIndex : Nat) (point : CBBinaryPoint)
    (own : point.index = index) :
    SOEAssignment (maps.insert cbIndex index point)
      (if point.soePoint then Function.update soePointMap point.soeIndex (some index)
        else soePointMap)
      (index :: known) (pairs ++ if point.soePoint then [(index, point.soeIndex)] else []) := by
  have absent : maps.odcPointMap index = none := by
    simpa using mt (assignment.known index).mp isNew
  have entered := PointMaps.insert_odcPointMap absent cbIndex point
  have notThere : ∀ soeIndex, (index, soeIndex) ∉ pairs := by
    intro soeIndex member
    obtain ⟨other, there, -⟩ := (assignment.points index soeIndex).mp member
    rw [absent] at there
    cases there
  have knownNow : ∀ other,
      ((maps.insert cbIndex index point).odcPointMap other).isSome ↔ other ∈ index :: known := by
    intro other
    rw [Option.isSome_iff_exists, List.mem_cons, ← assignment.known, Option.isSome_iff_exists]
    simp only [entered, exists_or, exists_and_left, exists_eq, and_true]
  have ownNow : ∀ other found,
      (maps.insert cbIndex index point).odcPointMap other = some found → found.index = other := by
    intro other found there
    rcases (entered other found).mp there with ⟨rfl, rfl⟩ | before
    · exact own
    · exact assignment.own other found before
  cases soe : point.soePoint with
  | false =>
      simp only [Bool.false_eq_true, if_false, List.append_nil]
      refine ⟨knownNow, ownNow, fun other soeIndex => ?_, assignment.found, assignment.total,
        assignment.once⟩
      rw [assignment.points]
      constructor
      · rintro ⟨found, there, facts⟩
        exact ⟨found, (entered other found).mpr (Or.inr there), facts⟩
      · rintro ⟨found, there, isSOE, same⟩
        rcases (entered other found).mp there with ⟨-, rfl⟩ | before
        · rw [soe] at isSOE
          cases isSOE
        · exact ⟨found, before, isSOE, same⟩
  | true =>
      simp only [if_true]
      refine ⟨knownNow, ownNow, fun other soeIndex => ?_, fun soeIndex other => ?_,
        fun other soeIndex member => ?_, ?_⟩
      · rw [List.mem_append, List.mem_singleton, assignment.points, Prod.mk.injEq]
        constructor
        · rintro (⟨found, there, facts⟩ | ⟨rfl, rfl⟩)
          · exact ⟨found, (entered other found).mpr (Or.inr there), facts⟩
          · exact ⟨point, (entered other point).mpr (Or.inl ⟨rfl, rfl⟩), soe, rfl⟩
        · rintro ⟨found, there, isSOE, same⟩
          rcases (entered other found).mp there with ⟨here, rfl⟩ | before
          · exact Or.inr ⟨here, same.symm⟩
          · exact Or.inl ⟨found, before, isSOE, same⟩
      · rw [Function.update_apply]
        intro there
        split at there
        · next same =>
            cases there
            rw [same]
            exact List.mem_append_right _ (List.mem_singleton.mpr rfl)
        · exact List.mem_append_left _ (assignment.found soeIndex other there)
      · rw [Function.update_apply]
        split
        · rfl
        · next other' =>
            rcases List.mem_append.mp member with before | here
            · exact assignment.total other soeIndex before
            · rw [List.mem_singleton, Prod.mk.injEq] at here
              exact absurd here.2 other'
      · rw [List.map_append, List.nodup_append]
        refine ⟨assignment.once, by simp, fun other member last isLast => ?_⟩
        obtain ⟨⟨_, soeIndex⟩, inPairs, rfl⟩ := List.mem_map.mp member
        rw [List.map_singleton, List.mem_singleton] at isLast
        rintro rfl
        simp only at isLast
        subst isLast
        exact notThere soeIndex inPairs

/-- The additions of other kinds leave the binary points alone. -/
theorem call_other (table : PointTable) {call : PointCall} (other : call.isBinary = false) :
    (table.call call).1.binary = table.binary ∧
      (table.call call).1.binarySOEPointMap = table.binarySOEPointMap := by
  cases call with
  | binary => cases other
  | analog =>
      simp only [PointTable.call, addAnalogPointToPointTable]
      split <;> exact ⟨rfl, rfl⟩
  | counter =>
      simp only [PointTable.call, addCounterPointToPointTable]
      split <;> exact ⟨rfl, rfl⟩
  | analogControl =>
      simp only [PointTable.call, addAnalogControlPointToPointTable]
      split <;> exact ⟨rfl, rfl⟩
  | binaryControl =>
      simp only [PointTable.call, addBinaryControlPointToPointTable]
      split
      · exact ⟨rfl, rfl⟩
      · split <;> exact ⟨rfl, rfl⟩
  | statusByte => exact ⟨rfl, rfl⟩

theorem soeAssignments_other {call : PointCall} (other : call.isBinary = false)
    (known : List Nat) (rest : List PointCall) :
    soeAssignments known (call :: rest) = soeAssignments known rest := by
  cases call with
  | binary => cases other
  | _ => rfl

/-- An accepted addition of a binary point extends the assignment. -/
theorem SOEAssignment.binary {table : PointTable}
    (assignment : SOEAssignment table.binary table.binarySOEPointMap known pairs)
    {index group channel soeIndex : Nat} {payloadLocation : PayloadLocationType}
    {pointType : BinaryPointType} {isSOE : Bool}
    (accepted : (table.addBinaryPointToPointTable index group channel payloadLocation pointType
      isSOE soeIndex).2 = true) :
    let added := (table.addBinaryPointToPointTable index group channel payloadLocation pointType
      isSOE soeIndex).1
    if index ∈ known then SOEAssignment added.binary added.binarySOEPointMap known pairs
    else SOEAssignment added.binary added.binarySOEPointMap (index :: known)
      (pairs ++ if isSOE then [(index, soeIndex)] else []) := by
  obtain ⟨maps', soeMap'⟩ := addBinaryPointToPointTable_accepted accepted
  simp only at maps' soeMap' ⊢
  rw [maps', soeMap']
  by_cases isKnown : index ∈ known
  · have there := (assignment.known index).mpr isKnown
    rw [if_pos isKnown, Option.isNone_eq_false_iff.mpr there, Bool.false_and, if_neg (by decide)]
    exact assignment.insert_known isKnown _ _
  · have absent : (table.binary.odcPointMap index).isNone = true := by
      simpa using mt (assignment.known index).mp isKnown
    rw [if_neg isKnown, absent, Bool.true_and]
    exact assignment.insert_new isKnown _
      { index := index, group := group, channel := channel
        payloadLocation := payloadLocation, pointType := pointType, soePoint := isSOE
        soeIndex := soeIndex } rfl

/-- **Accepted additions make the points of their assignment.** -/
theorem load_assignment {table : PointTable} (calls : List PointCall)
    (assignment : SOEAssignment table.binary table.binarySOEPointMap known pairs)
    (accepted : (table.load calls).2 = true) :
    ∃ knownNow, SOEAssignment (table.load calls).1.binary (table.load calls).1.binarySOEPointMap
      knownNow (pairs ++ soeAssignments known calls) := by
  induction calls generalizing table known pairs with
  | nil => exact ⟨known, by simpa [load, soeAssignments] using assignment⟩
  | cons call rest ih =>
      simp only [load, Bool.and_eq_true] at accepted ⊢
      obtain ⟨first, later⟩ := accepted
      cases kind : call.isBinary with
      | false =>
          obtain ⟨maps', soeMap'⟩ := call_other table kind
          rw [soeAssignments_other kind]
          exact ih (by rw [maps', soeMap']; exact assignment) later
      | true =>
          obtain ⟨index, group, channel, payloadLocation, pointType, isSOE, soeIndex, rfl⟩ :
              ∃ index group channel payloadLocation pointType isSOE soeIndex,
                call = .binary index group channel payloadLocation pointType isSOE soeIndex := by
            cases call with
            | binary => exact ⟨_, _, _, _, _, _, _, rfl⟩
            | _ => cases kind
          have extended := assignment.binary first
          simp only [soeAssignments]
          by_cases isKnown : index ∈ known
          · rw [if_pos isKnown] at extended ⊢
            exact ih extended later
          · rw [if_neg isKnown] at extended ⊢
            have loaded := ih extended later
            cases isSOE <;> simpa [PointTable.call] using loaded

/-! ## The outstation queues an event -/

/-- The event that an outstation queues when a binary value is set: that of a
SOE point, when the queue has more than one free place. -/
def queuedEvent (table : PointTable) (index : Nat) (meas : Bool) (eventtime : Nat) :
    Option CBBinaryPoint :=
  match table.binary.odcPointMap index with
  | none => none
  | some point =>
    if point.soePoint && table.isOutstation && decide (table.soe.binaryTimeTaggedEventQueue.length <
        (table.soe.binaryTimeTaggedEventQueueSize + (2 ^ 64 - 1)) % 2 ^ 64) then
      some (SOEQueue.eventOf point meas eventtime)
    else none

/-- A queued event is put at the end of the queue. -/
theorem setBinaryValueUsingODCIndex_queues {table : PointTable} {index : Nat} {meas : Bool}
    {eventtime : Nat} {record : CBBinaryPoint}
    (queued : table.queuedEvent index meas eventtime = some record) (now : Nat) :
    (table.setBinaryValueUsingODCIndex index meas eventtime now).1.soe.binaryTimeTaggedEventQueue =
      table.soe.binaryTimeTaggedEventQueue ++ [record] := by
  unfold queuedEvent at queued
  unfold setBinaryValueUsingODCIndex
  cases there : table.binary.odcPointMap index with
  | none =>
      rw [there] at queued
      cases queued
  | some point =>
      simp only [there, Bool.and_eq_true, decide_eq_true_eq] at queued
      split at queued
      · next stores =>
          obtain ⟨⟨isSOE, isOutstation⟩, room⟩ := stores
          cases queued
          have pushed : (table.soe.addToDigitalEvents point meas eventtime
              now).binaryTimeTaggedEventQueue =
                table.soe.binaryTimeTaggedEventQueue ++
                  [SOEQueue.eventOf point meas eventtime] := by
            rw [SOEQueue.addToDigitalEvents, if_pos isSOE]
            simp only [room, if_true]
          simp only [isSOE, isOutstation, Bool.and_self, if_true]
          split <;> exact pushed
      · cases queued

/-- What happens to the table of a running outstation: a binary value is set, a
scan reads and resets the change marks of a point, an event is popped. -/
inductive TableOperation where
  | set (index : Nat) (meas : Bool) (eventtime now : Nat)
  | scan (index : Nat)
  | pop

def operate (table : PointTable) : TableOperation → PointTable
  | .set index meas eventtime now =>
    (table.setBinaryValueUsingODCIndex index meas eventtime now).1
  | .scan index =>
    { table with
      binary := table.binary.modify index (·.getBinaryAndMCFlagWithFlagReset.1) }
  | .pop => { table with soe := table.soe.popNextTaggedEventPoint.1 }

/-- Two tables address their events alike: the points with an ODC index have one
SOE index, and the queues one size. -/
structure SameAddressing (first second : PointTable) : Prop where
  points : ∀ index,
    (first.binary.odcPointMap index).map (fun point => (point.soePoint, point.soeIndex)) =
      (second.binary.odcPointMap index).map (fun point => (point.soePoint, point.soeIndex))
  size : first.soe.binaryTimeTaggedEventQueueSize = second.soe.binaryTimeTaggedEventQueueSize

theorem SameAddressing.modify {table start : PointTable} (same : SameAddressing table start)
    (index : Nat) {change : CBBinaryPoint → CBBinaryPoint}
    (keeps : ∀ point, ((change point).soePoint, (change point).soeIndex) =
      (point.soePoint, point.soeIndex)) :
    SameAddressing { table with binary := table.binary.modify index change } start := by
  refine ⟨fun other => ?_, same.size⟩
  rw [PointMaps.modify_odcPointMap, ← same.points other]
  by_cases here : other = index
  · subst here
    rw [if_pos rfl, Option.map_map]
    congr 1
    funext point
    exact keeps point
  · rw [if_neg here]

theorem addToDigitalEvents_size (queue : SOEQueue) (inpt : CBBinaryPoint) (meas : Bool)
    (eventtime now : Nat) :
    (queue.addToDigitalEvents inpt meas eventtime now).binaryTimeTaggedEventQueueSize =
      queue.binaryTimeTaggedEventQueueSize := by
  simp only [SOEQueue.addToDigitalEvents]
  repeat' split
  all_goals rfl

/-- **No operation changes how events are addressed.** -/
theorem operate_sameAddressing {table start : PointTable} (same : SameAddressing table start)
    (operation : TableOperation) : SameAddressing (table.operate operation) start := by
  cases operation with
  | set index meas eventtime now =>
      simp only [operate, setBinaryValueUsingODCIndex]
      cases there : table.binary.odcPointMap index with
      | none => exact same
      | some point =>
          have queued : SameAddressing
              (if point.soePoint && table.isOutstation then
                { table with soe := table.soe.addToDigitalEvents point meas eventtime now }
              else table) start := by
            split
            · exact ⟨same.points, (addToDigitalEvents_size _ _ _ _ _).trans same.size⟩
            · exact same
          simp only
          split
          · exact queued.modify index fun _ => rfl
          · exact queued
  | scan index => exact same.modify index fun _ => rfl
  | pop =>
      refine ⟨same.points, ?_⟩
      rw [← same.size]
      simp only [operate, SOEQueue.popNextTaggedEventPoint]
      split <;> rfl

theorem run_sameAddressing (table : PointTable) (operations : List TableOperation) :
    SameAddressing (operations.foldl operate table) table := by
  suffices ∀ (now : PointTable), SameAddressing now table →
      SameAddressing (operations.foldl operate now) table from
    this table ⟨fun _ => rfl, rfl⟩
  induction operations with
  | nil => intro now same; exact same
  | cons operation rest ih => intro now same; exact ih _ (operate_sameAddressing same operation)

/-- The event that is queued is one of a SOE point, and the queue has more than
one place. -/
theorem queuedEvent_point {table start : PointTable} (same : SameAddressing table start)
    {index : Nat} {meas : Bool} {eventtime : Nat} {record : CBBinaryPoint}
    (queued : table.queuedEvent index meas eventtime = some record) :
    start.soe.binaryTimeTaggedEventQueueSize ≠ 1 ∧
      ∃ point, start.binary.odcPointMap index = some point ∧ point.soePoint = true ∧
        point.soeIndex = record.soeIndex := by
  have points := same.points index
  unfold queuedEvent at queued
  cases there : table.binary.odcPointMap index with
  | none =>
      rw [there] at queued
      cases queued
  | some point =>
      simp only [there, Bool.and_eq_true, decide_eq_true_eq] at queued
      split at queued
      · next stores =>
          obtain ⟨⟨isSOE, -⟩, room⟩ := stores
          cases queued
          rw [there, Option.map_some] at points
          obtain ⟨original, atStart, fields⟩ := Option.map_eq_some_iff.mp points.symm
          rw [Prod.mk.injEq] at fields
          refine ⟨fun one => ?_, original, atStart, fields.1.trans isSOE, fields.2⟩
          rw [same.size, one] at room
          simp at room
      · cases queued

/-- With an empty queue of another size, the event of every SOE point is queued. -/
theorem queuedEvent_of_empty (table : PointTable) (index : Nat) {point : CBBinaryPoint}
    (there : table.binary.odcPointMap index = some point) (isSOE : point.soePoint = true)
    (isOutstation : table.isOutstation = true)
    (empty : table.soe.binaryTimeTaggedEventQueue = [])
    (size : table.soe.binaryTimeTaggedEventQueueSize ≠ 1)
    (inWord : table.soe.binaryTimeTaggedEventQueueSize < 2 ^ 32) :
    table.queuedEvent index true 0 = some (SOEQueue.eventOf point true 0) := by
  have room : 0 < (table.soe.binaryTimeTaggedEventQueueSize + (2 ^ 64 - 1)) % 2 ^ 64 := by omega
  simp only [queuedEvent, there, isSOE, isOutstation, empty, List.length_nil, room, Bool.and_self,
    decide_true, if_true]

/-- An addition leaves the event queue alone. -/
theorem call_soe (table : PointTable) (call : PointCall) :
    (table.call call).1.soe = table.soe := by
  cases call with
  | binary index group channel payloadLocation pointType isSOE soeIndex =>
      obtain ⟨bits, frame⟩ :=
        table.checkForBinaryBitClash_frame group channel payloadLocation pointType
      simp only [PointTable.call, addBinaryPointToPointTable]
      split
      · rfl
      · split
        · rw [frame]
        · rw [frame]
          rfl
  | analog =>
      simp only [PointTable.call, addAnalogPointToPointTable]
      split <;> rfl
  | counter =>
      simp only [PointTable.call, addCounterPointToPointTable]
      split <;> rfl
  | analogControl =>
      simp only [PointTable.call, addAnalogControlPointToPointTable]
      split <;> rfl
  | binaryControl =>
      simp only [PointTable.call, addBinaryControlPointToPointTable]
      split
      · rfl
      · split <;> rfl
  | statusByte => rfl

theorem load_soe (table : PointTable) (calls : List PointCall) :
    (table.load calls).1.soe = table.soe := by
  induction calls generalizing table with
  | nil => rfl
  | cons call rest ih => rw [load, ih, call_soe]

end PointTable

open PointTable

theorem PointTable.getBinaryODCIndexUsingSOE_eq_some {table : PointTable} {soeIndex index : Nat} :
    table.getBinaryODCIndexUsingSOE soeIndex = some index ↔
      soeIndex ≤ 120 ∧ table.binarySOEPointMap soeIndex = some index := by
  unfold getBinaryODCIndexUsingSOE
  split
  · simp only [reduceCtorEq, false_iff, not_and]
    omega
  · simp only [iff_and_self]
    omega

/-! ## The addressing of a configuration -/

/-- The condition on a configuration: every SOE point that it makes has a SOE
index that a record can carry, and no other point has it. -/
def SOEIndexesDistinct (entries : List BinaryPointEntry) : Prop :=
  ∀ calls ∈ binaryPointCalls .Binary entries,
    (∀ pair ∈ soeAssignments [] calls, pair.2 ≤ 120) ∧
      ((soeAssignments [] calls).map Prod.snd).Nodup

instance (entries : List BinaryPointEntry) : Decidable (SOEIndexesDistinct entries) :=
  inferInstanceAs (Decidable (∀ calls ∈ binaryPointCalls .Binary entries, _ ∧ _))

/-- In every state of the outstation, the event of a point that is queued is
found again in the table of the master, and is no overflow record. -/
def SOEAddressed (loaded : PointTable) (soeQueueSize : Nat) : Prop :=
  ∀ (operations : List TableOperation) (index : Nat) (meas : Bool) (eventtime : Nat),
    ∀ record ∈ (operations.foldl operate (loaded.build true soeQueueSize)).queuedEvent index meas
      eventtime,
      (loaded.build false 5).getBinaryODCIndexUsingSOE record.soeIndex = some index ∧
        record.soeIndex ≠ 127

/-- Every SOE point is found again exactly when the SOE indexes are distinct. -/
theorem PointTable.SOEAssignment.found_iff {maps : PointMaps CBBinaryPoint}
    {soePointMap : Nat → Option Nat} {known : List Nat} {pairs : List (Nat × Nat)}
    (assignment : SOEAssignment maps soePointMap known pairs) :
    (∀ pair ∈ pairs, pair.2 ≤ 120 ∧ soePointMap pair.2 = some pair.1) ↔
      (∀ pair ∈ pairs, pair.2 ≤ 120) ∧ (pairs.map Prod.snd).Nodup := by
  constructor
  · intro found
    refine ⟨fun pair member => (found pair member).1, ?_⟩
    refine List.Nodup.map_on (fun first isFirst second isSecond same => ?_)
      (List.Nodup.of_map _ assignment.once)
    have one := (found first isFirst).2
    have other := (found second isSecond).2
    rw [same, other, Option.some.injEq] at one
    exact Prod.ext one.symm same
  · rintro ⟨small, distinct⟩ ⟨index, soeIndex⟩ member
    refine ⟨small _ member, ?_⟩
    obtain ⟨other, there⟩ := Option.isSome_iff_exists.mp (assignment.total index soeIndex member)
    have pair := assignment.found soeIndex other there
    have same := List.inj_on_of_nodup_map distinct pair member rfl
    rw [Prod.mk.injEq] at same
    rw [there, same.1]

/-- **The addressing of SOE events.** For a configuration whose additions are all
accepted, every event that is queued is found again in the table of the master
exactly when the SOE indexes are distinct and at most 120 (or no event is ever
queued, because the queue has one place). -/
theorem soeAddressing_iff {entries : List BinaryPointEntry} {loaded : PointTable}
    (accepted : processBinaryPoints .Binary entries {} = some (loaded, true)) {soeQueueSize : Nat}
    (inWord : soeQueueSize < 2 ^ 32) :
    SOEAddressed loaded soeQueueSize ↔ soeQueueSize = 1 ∨ SOEIndexesDistinct entries := by
  obtain ⟨calls, made, result⟩ := Option.map_eq_some_iff.mp accepted
  have loadedIs : loaded = (PointTable.load {} calls).1 := by rw [result]
  have allAccepted : (PointTable.load {} calls).2 = true := by rw [result]
  obtain ⟨known, assignment⟩ := load_assignment calls soeAssignment_empty allAccepted
  rw [← loadedIs, List.nil_append] at assignment
  have empty : loaded.soe.binaryTimeTaggedEventQueue = [] := by rw [loadedIs, load_soe]
  have distinct_iff : SOEIndexesDistinct entries ↔
      ∀ pair ∈ soeAssignments [] calls,
        pair.2 ≤ 120 ∧ loaded.binarySOEPointMap pair.2 = some pair.1 := by
    rw [assignment.found_iff]
    simp [SOEIndexesDistinct, made]
  rw [distinct_iff]
  constructor
  · intro addressed
    by_cases one : soeQueueSize = 1
    · exact Or.inl one
    · refine Or.inr fun ⟨index, soeIndex⟩ member => ?_
      obtain ⟨point, there, isSOE, rfl⟩ := (assignment.points index soeIndex).mp member
      have queued := queuedEvent_of_empty (loaded.build true soeQueueSize) index there isSOE rfl
        empty one inWord
      obtain ⟨found, -⟩ := addressed [] index true 0 _ queued
      exact getBinaryODCIndexUsingSOE_eq_some.mp found
  · rintro (one | found) operations index meas eventtime record queued
    · obtain ⟨size, -⟩ := queuedEvent_point (run_sameAddressing _ operations) queued
      exact absurd one size
    · obtain ⟨-, point, there, isSOE, same⟩ :=
        queuedEvent_point (run_sameAddressing _ operations) queued
      have member := (assignment.points index record.soeIndex).mpr ⟨point, there, isSOE, same⟩
      obtain ⟨small, there⟩ := found _ member
      simp only at small there
      exact ⟨getBinaryODCIndexUsingSOE_eq_some.mpr ⟨small, there⟩, by omega⟩

/-- A range of three points, and one point of another group. -/
theorem soeAddressing_iff_range :
    let entries : List BinaryPointEntry :=
      [{ rangeStart := some 0, rangeStop := some 2, payloadLocation := some ['1', 'B']
         group := some 3, channel := some 1, type := some ['D', 'I', 'G'], soe := some (some 0) },
        { index := some 7, payloadLocation := some ['2', 'A'], group := some 4, channel := some 1
          type := some ['M', 'C', 'A'], soe := some (some 3) }]
    SOEAddressed ((processBinaryPoints .Binary entries {}).getD ({}, false)).1 500 := by
  intro entries
  exact (@soeAddressing_iff entries _ rfl 500 (by decide)).mpr (Or.inr (by decide))

/-- **Two points share a record.** Two points of different groups with one SOE
index are accepted, and the event of the first is taken for one of the second. -/
theorem soeAddressing_shared :
    let entries : List BinaryPointEntry :=
      [{ index := some 0, payloadLocation := some ['1', 'B'], group := some 1, channel := some 1
         type := some ['D', 'I', 'G'], soe := some (some 5) },
        { index := some 1, payloadLocation := some ['1', 'B'], group := some 2, channel := some 1
          type := some ['D', 'I', 'G'], soe := some (some 5) }]
    let loaded := (processBinaryPoints .Binary entries {}).getD ({}, false)
    loaded.2 = true ∧ (loaded.1.build false 5).getBinaryODCIndexUsingSOE 5 = some 1 ∧
      ¬ SOEAddressed loaded.1 500 := by
  intro entries loaded
  refine ⟨by decide, by decide, fun addressed => ?_⟩
  have queued := queuedEvent_of_empty (loaded.1.build true 500) 0 rfl rfl rfl rfl
    (by decide) (by decide)
  have found := (addressed [] 0 true 0 _ queued).1
  revert found
  decide

end OpenDataCon.CBPort
