import Mathlib
import OpenDataCon.Foundations.Runs
import OpenDataCon.MD3Port.Blocks

/-!
# Binary points

A table keeps its binary points in the order of their MD3 indexes: the module address and the
channel. What never changes of a point is its key; the keys of a table are its layout, in which
no two points share an MD3 index or an ODC index. What changes is the value, with the time at
which it was set and the mark of a change.

A module word has the bits of sixteen channels, the first one on top
(`getLsbD_collectModuleBitsIntoWord`). The outstation collects it, and may clear the marks of
the points it reads; the master takes it apart again and stores the bits
(`binary_generateODCEvents`). At the outstation a time-tagged point also puts an event on the
queue, with the word of its module at that time.
-/

set_option autoImplicit false

namespace OpenDataCon.MD3Port

open Runs

/-! ## Keys and layouts -/

inductive BinaryPointType where
  | BASICINPUT | TIMETAGGEDINPUT | DOMOUTPUT | POMOUTPUT | DIMOUTPUT
deriving DecidableEq, Repr

/-- What never changes of a point. -/
structure MD3PointKey where
  index : Nat := 0
  moduleAddress : Nat := 0
  channel : Nat := 0
  pollGroup : Nat := 0
  pointType : BinaryPointType := .BASICINPUT
deriving DecidableEq, Repr

/-- The MD3 index: eight bits of the module address over the channel. -/
def md3Index (moduleAddress channel : Nat) : Nat := moduleAddress % 256 * 256 + channel

def MD3PointKey.md3Index (key : MD3PointKey) : Nat :=
  MD3Port.md3Index key.moduleAddress key.channel

def MD3PointKey.Before (first second : MD3PointKey) : Prop := first.md3Index ≤ second.md3Index

instance : DecidableRel MD3PointKey.Before :=
  fun first second => inferInstanceAs (Decidable (first.md3Index ≤ second.md3Index))

instance : Std.Total MD3PointKey.Before := ⟨fun _ _ => Nat.le_total ..⟩

instance : IsTrans MD3PointKey MD3PointKey.Before := ⟨fun _ _ _ => Nat.le_trans⟩

/-- A module has sixteen channels, and its address is a byte. -/
def MD3PointKey.InRange (key : MD3PointKey) : Prop := key.moduleAddress < 256 ∧ key.channel < 16

/-- The points of a table, in the order of their MD3 indexes. -/
structure BinaryLayout where
  keys : List MD3PointKey := []
  ordered : keys.Pairwise MD3PointKey.Before := by exact .nil
  apart : (keys.map MD3PointKey.md3Index).Nodup := by exact List.nodup_nil
  named : (keys.map MD3PointKey.index).Nodup := by exact List.nodup_nil
  inRange : ∀ key ∈ keys, key.InRange := by exact List.forall_mem_nil MD3PointKey.InRange

namespace BinaryLayout

/-- A new point, unless its MD3 index or its ODC index is taken. -/
def addBinaryPointToPointTable (layout : BinaryLayout) (key : MD3PointKey)
    (inRange : key.InRange) : BinaryLayout × Bool :=
  if duplicate : key.md3Index ∈ layout.keys.map MD3PointKey.md3Index ∨
      key.index ∈ layout.keys.map MD3PointKey.index then (layout, false)
  else
    have inserted := layout.keys.perm_orderedInsert MD3PointKey.Before key
    ({ keys := layout.keys.orderedInsert MD3PointKey.Before key
       ordered := layout.ordered.orderedInsert key
       apart := by
         rw [(inserted.map _).nodup_iff, List.map_cons, List.nodup_cons]
         exact ⟨fun there => duplicate (.inl there), layout.apart⟩
       named := by
         rw [(inserted.map _).nodup_iff, List.map_cons, List.nodup_cons]
         exact ⟨fun there => duplicate (.inr there), layout.named⟩
       inRange := by
         intro other member
         rcases List.mem_cons.mp (inserted.mem_iff.mp member) with rfl | before
         · exact inRange
         · exact layout.inRange other before }, true)

/-- The point with a module address and a channel. -/
def findMD3 (layout : BinaryLayout) (moduleAddress channel : Nat) : Option MD3PointKey :=
  layout.keys.find? fun key => key.md3Index == MD3Port.md3Index moduleAddress channel

/-- The point with an ODC index. -/
def findODC (layout : BinaryLayout) (index : Nat) : Option MD3PointKey :=
  layout.keys.find? fun key => key.index == index

theorem md3Index_inj {first second : MD3PointKey} (firstRange : first.InRange)
    (secondRange : second.InRange) :
    first.md3Index = second.md3Index ↔
      first.moduleAddress = second.moduleAddress ∧ first.channel = second.channel := by
  obtain ⟨firstModule, firstChannel⟩ := firstRange
  obtain ⟨secondModule, secondChannel⟩ := secondRange
  unfold MD3PointKey.md3Index MD3Port.md3Index
  omega

variable {layout : BinaryLayout}

theorem eq_of_md3Index {first second : MD3PointKey} (isFirst : first ∈ layout.keys)
    (isSecond : second ∈ layout.keys) (same : first.md3Index = second.md3Index) :
    first = second :=
  List.inj_on_of_nodup_map layout.apart isFirst isSecond same

/-- A point is found at its module address and channel. -/
theorem findMD3_of_mem {key : MD3PointKey} (member : key ∈ layout.keys) {channel : Nat}
    (same : channel = key.channel) : layout.findMD3 key.moduleAddress channel = some key := by
  subst same
  cases found : layout.findMD3 key.moduleAddress key.channel with
  | none =>
      have absent := List.find?_eq_none.mp found key member
      simp [MD3PointKey.md3Index] at absent
  | some other =>
      have same : other.md3Index = key.md3Index := by
        simpa [MD3PointKey.md3Index] using List.find?_some found
      exact congrArg some (eq_of_md3Index (List.mem_of_find?_eq_some found) member same)

theorem findMD3_eq_some {moduleAddress channel : Nat} {key : MD3PointKey}
    (small : moduleAddress < 256) (inModule : channel < 16) :
    layout.findMD3 moduleAddress channel = some key ↔
      key ∈ layout.keys ∧ key.moduleAddress = moduleAddress ∧ key.channel = channel := by
  constructor
  · intro found
    have member := List.mem_of_find?_eq_some found
    have same : key.md3Index = MD3Port.md3Index moduleAddress channel := by
      simpa using List.find?_some found
    have range := layout.inRange key member
    obtain ⟨bySame, -⟩ := @md3Index_inj key
      { moduleAddress := moduleAddress, channel := channel } range ⟨small, inModule⟩
    exact ⟨member, bySame same⟩
  · rintro ⟨member, rfl, rfl⟩
    exact findMD3_of_mem member rfl

theorem findODC_eq_some {index : Nat} {key : MD3PointKey} :
    layout.findODC index = some key ↔ key ∈ layout.keys ∧ key.index = index := by
  constructor
  · intro found
    exact ⟨List.mem_of_find?_eq_some found, by simpa using List.find?_some found⟩
  · rintro ⟨member, rfl⟩
    cases found : layout.findODC key.index with
    | none =>
        have absent := List.find?_eq_none.mp found key member
        simp at absent
    | some other =>
        have same : other.index = key.index := by simpa using List.find?_some found
        exact congrArg some
          (List.inj_on_of_nodup_map layout.named (List.mem_of_find?_eq_some found) member same)

end BinaryLayout

/-- The points of a configuration entry: a range of ODC indexes from an offset in a module. -/
structure BinaryPointEntry where
  start : Nat
  stop : Nat
  module : Nat
  offset : Nat := 0
  pollgroup : Nat := 0
  pointType : BinaryPointType := .BASICINPUT
deriving DecidableEq, Repr

/-- The key of a point of a range. -/
def BinaryPointEntry.key (entry : BinaryPointEntry) (position : Nat) : MD3PointKey where
  index := entry.start + position
  moduleAddress := (entry.module + (position + entry.offset) / 16) % 256
  channel := (entry.offset + position) % 16
  pollGroup := entry.pollgroup % 256
  pointType := entry.pointType

theorem BinaryPointEntry.key_inRange (entry : BinaryPointEntry) (position : Nat) :
    (entry.key position).InRange :=
  ⟨Nat.mod_lt _ (by decide), Nat.mod_lt _ (by decide)⟩

/-- Add the points of the entries; a duplicate is passed over. -/
def processBinaryPoints (entries : List BinaryPointEntry) (layout : BinaryLayout) : BinaryLayout :=
  entries.foldl (fun layout entry =>
    (List.range (entry.stop + 1 - entry.start)).foldl (fun layout position =>
      (layout.addBinaryPointToPointTable (entry.key position) (entry.key_inRange position)).1)
      layout) layout

/-! ## Values and tables -/

/-- What changes of a point. -/
structure PointValue where
  changedTime : Nat := 0
  hasBeenSet : Bool := false
  binary : Bool := true
  changed : Bool := true
deriving DecidableEq, Repr

namespace PointValue

/-- Whatever mark there was, it is now whether the value differs from the one before. -/
def setBinary (value : PointValue) (b : Bool) (ctime : Nat) : PointValue where
  hasBeenSet := true
  changedTime := ctime
  changed := value.binary != b
  binary := b

def getAndResetChangedFlag (value : PointValue) : PointValue × Bool :=
  ({ value with changed := false }, value.changed)

def setChangedFlag (value : PointValue) : PointValue := { value with changed := true }

end PointValue

/-- A point as it is copied to the queue. -/
structure MD3BinaryPoint extends MD3PointKey, PointValue where
  moduleBinarySnapShot : BitVec 16 := 0#16
deriving DecidableEq, Repr

namespace MD3BinaryPoint

def overFlowMarkerPoint : MD3BinaryPoint where
  pointType := .TIMETAGGEDINPUT
  binary := false
  changed := false

def isOverFlowMarkerPoint (point : MD3BinaryPoint) : Bool :=
  point.index == 0 && point.moduleAddress == 0 && point.channel == 0 && point.pollGroup == 0 &&
    point.changedTime == 0 && !point.binary && point.pointType == .TIMETAGGEDINPUT

/-- A point of a real module is no marker. -/
theorem not_isOverFlowMarkerPoint {point : MD3BinaryPoint} (real : point.moduleAddress ≠ 0) :
    point.isOverFlowMarkerPoint = false := by
  simp [isOverFlowMarkerPoint, real]

end MD3BinaryPoint

/-- The queue holds this many events. -/
def BinaryTimeTaggedEventQueueSize : Nat := 256

/-- The binary part of a point table. The values are found by MD3 index. -/
structure BinaryTable where
  layout : BinaryLayout := {}
  value : Nat → PointValue := fun _ => {}
  isOutstation : Bool := false
  newDigitalCommands : Bool := true
  binaryTimeTaggedEventQueue : List MD3BinaryPoint := []

namespace BinaryTable

/-- Change the value at an MD3 index. -/
def modify (table : BinaryTable) (index : Nat) (change : PointValue → PointValue) : BinaryTable :=
  { table with value := Function.update table.value index (change (table.value index)) }

section Modify

variable (table : BinaryTable) (index : Nat) (change : PointValue → PointValue)

@[simp] theorem modify_layout : (table.modify index change).layout = table.layout := rfl

@[simp] theorem modify_isOutstation :
    (table.modify index change).isOutstation = table.isOutstation := rfl

@[simp] theorem modify_newDigitalCommands :
    (table.modify index change).newDigitalCommands = table.newDigitalCommands := rfl

@[simp] theorem modify_queue :
    (table.modify index change).binaryTimeTaggedEventQueue = table.binaryTimeTaggedEventQueue := rfl

theorem modify_value (other : Nat) :
    (table.modify index change).value other =
      if other = index then change (table.value index) else table.value other :=
  Function.update_apply ..

end Modify

/-- The value at a module address and a channel, and nothing else changes. -/
def getBinaryValueUsingMD3Index (table : BinaryTable) (moduleAddress channel : Nat) :
    Option Bool :=
  (table.layout.findMD3 moduleAddress channel).map fun key => (table.value key.md3Index).binary

def getBinaryChangedUsingMD3Index (table : BinaryTable) (moduleAddress channel : Nat) :
    Option Bool :=
  (table.layout.findMD3 moduleAddress channel).map fun key => (table.value key.md3Index).changed

/-- The value at a module address and a channel; its mark is cleared. -/
def getBinaryValueAndResetUsingMD3Index (table : BinaryTable) (moduleAddress channel : Nat) :
    BinaryTable × Option Bool :=
  match table.layout.findMD3 moduleAddress channel with
  | none => (table, none)
  | some key =>
    (table.modify key.md3Index fun value => value.getAndResetChangedFlag.1,
      some (table.value key.md3Index).binary)

/-- The word with one more channel in it. -/
def withChannel (wordres : BitVec 16) (j : Nat) (bitres : Option Bool) : BitVec 16 :=
  wordres ||| if bitres = some true then 1#16 <<< (15 - j) else 0#16

def collectModuleBitsIntoWord (table : BinaryTable) (moduleAddress : Nat) : BitVec 16 :=
  (List.range 16).foldl (fun wordres j =>
    withChannel wordres j (table.getBinaryValueUsingMD3Index moduleAddress j)) 0#16

/-- One turn of the loop that also clears the marks. -/
def collectChannel (moduleAddress : Nat) (state : BinaryTable × BitVec 16) (j : Nat) :
    BinaryTable × BitVec 16 :=
  let read := state.1.getBinaryValueAndResetUsingMD3Index moduleAddress j
  (read.1, withChannel state.2 j read.2)

def collectModuleBitsIntoWordandResetChangeFlags (table : BinaryTable) (moduleAddress : Nat) :
    BinaryTable × BitVec 16 :=
  (List.range 16).foldl (collectChannel moduleAddress) (table, 0#16)

/-- The point as it is now, with the word of its module. -/
def pointWith (table : BinaryTable) (key : MD3PointKey) (snapShot : BitVec 16) : MD3BinaryPoint :=
  { toMD3PointKey := key, toPointValue := table.value key.md3Index,
    moduleBinarySnapShot := snapShot }

/-- A time-tagged point puts an event on the queue. The last place takes the marker of an
overflow, and a full queue takes nothing. -/
def addToDigitalEvents (table : BinaryTable) (key : MD3PointKey) : BinaryTable :=
  if key.pointType = .TIMETAGGEDINPUT then
    let pt := table.pointWith key
      (if table.newDigitalCommands then table.collectModuleBitsIntoWord key.moduleAddress
        else 0#16)
    let queue := table.binaryTimeTaggedEventQueue
    if queue.length < BinaryTimeTaggedEventQueueSize - 1 then
      { table with binaryTimeTaggedEventQueue := queue ++ [pt] }
    else if queue.length < BinaryTimeTaggedEventQueueSize then
      { table with
        binaryTimeTaggedEventQueue := queue ++ [MD3BinaryPoint.overFlowMarkerPoint] }
    else table
  else table

/-- Set the value of a point; at an outstation its event is kept. -/
def setBinaryValueUsingODCIndex (table : BinaryTable) (index : Nat) (meas : Bool)
    (eventtime : Nat) : BinaryTable × Bool :=
  match table.layout.findODC index with
  | none => (table, false)
  | some key =>
    let table := table.modify key.md3Index (·.setBinary meas eventtime)
    (if table.isOutstation then table.addToDigitalEvents key else table, true)

/-- Set the value of a point when it differs or was never set; the second result says whether
it was set. -/
def setBinaryValueUsingMD3Index (table : BinaryTable) (moduleAddress channel : Nat) (meas : Bool)
    (now : Nat) : BinaryTable × Bool :=
  match table.layout.findMD3 moduleAddress channel with
  | none => (table, false)
  | some key =>
    let value := table.value key.md3Index
    if value.binary ≠ meas ∨ value.hasBeenSet = false then
      (table.modify key.md3Index (·.setBinary meas now), true)
    else (table, false)

/-- Every point is to be sent again. -/
def markAllBinaryPointsAsChanged (table : BinaryTable) : BinaryTable :=
  { table with
    value := fun index =>
      if index ∈ table.layout.keys.map MD3PointKey.md3Index then
        (table.value index).setChangedFlag
      else table.value index }

end BinaryTable

/-- The value of a point that the master publishes. -/
structure PublishedBinary where
  index : Nat
  value : Bool
  eventtime : Nat
deriving DecidableEq, Repr

namespace BinaryTable

/-- One channel of a word that the master has received. -/
def generateChannel (moduleData : BitVec 16) (moduleAddress eventtime now : Nat)
    (state : BinaryTable × List PublishedBinary) (idx : Nat) :
    BinaryTable × List PublishedBinary :=
  let bitvalue := moduleData.getLsbD (15 - idx)
  let res := state.1.setBinaryValueUsingMD3Index moduleAddress idx bitvalue now
  if res.2 then
    match state.1.layout.findMD3 moduleAddress idx with
    | none => (res.1, state.2)
    | some key => (res.1, state.2 ++ [⟨key.index, bitvalue, eventtime⟩])
  else (res.1, state.2)

/-- Store the bits of a module word, and publish those that are new. -/
def generateODCEventsFromMD3ModuleWord (table : BinaryTable) (moduleData : BitVec 16)
    (moduleAddress eventtime now : Nat) : BinaryTable × List PublishedBinary :=
  (List.range 16).foldl (generateChannel moduleData moduleAddress eventtime now) (table, [])

/-! ## Visiting the channels of a module -/

/-- Change the value of the point at a module address and a channel, if there is one. -/
def visit (table : BinaryTable) (moduleAddress channel : Nat)
    (change : PointValue → PointValue) : BinaryTable :=
  match table.layout.findMD3 moduleAddress channel with
  | none => table
  | some key => table.modify key.md3Index change

section Visit

variable (table : BinaryTable) (moduleAddress channel : Nat)

/-- Only values change. -/
def SameFrame (before after : BinaryTable) : Prop :=
  after.layout = before.layout ∧ after.isOutstation = before.isOutstation ∧
    after.newDigitalCommands = before.newDigitalCommands ∧
    after.binaryTimeTaggedEventQueue = before.binaryTimeTaggedEventQueue

theorem SameFrame.refl : SameFrame table table := ⟨rfl, rfl, rfl, rfl⟩

theorem SameFrame.trans {first second third : BinaryTable} (before : SameFrame first second)
    (after : SameFrame second third) : SameFrame first third :=
  ⟨after.1.trans before.1, after.2.1.trans before.2.1, after.2.2.1.trans before.2.2.1,
    after.2.2.2.trans before.2.2.2⟩

theorem sameFrame_visit (change : PointValue → PointValue) :
    SameFrame table (table.visit moduleAddress channel change) := by
  unfold visit
  split
  · exact .refl table
  · exact ⟨rfl, rfl, rfl, rfl⟩

theorem visit_value {key : MD3PointKey} (member : key ∈ table.layout.keys)
    (small : moduleAddress < 256) (inModule : channel < 16) (change : PointValue → PointValue) :
    (table.visit moduleAddress channel change).value key.md3Index =
      if key.moduleAddress = moduleAddress ∧ key.channel = channel then
        change (table.value key.md3Index)
      else table.value key.md3Index := by
  unfold visit
  cases found : table.layout.findMD3 moduleAddress channel with
  | none =>
      have absent : ¬(key.moduleAddress = moduleAddress ∧ key.channel = channel) := by
        rintro ⟨rfl, rfl⟩
        rw [BinaryLayout.findMD3_of_mem member rfl] at found
        exact Option.some_ne_none _ found
      rw [if_neg absent]
  | some other =>
      obtain ⟨otherMember, rfl, rfl⟩ := (BinaryLayout.findMD3_eq_some small inModule).mp found
      simp only [modify_value]
      have sameIndex := BinaryLayout.md3Index_inj (table.layout.inRange key member)
        (table.layout.inRange other otherMember)
      by_cases same : key.md3Index = other.md3Index
      · rw [if_pos same, if_pos (sameIndex.mp same), same]
      · rw [if_neg same, if_neg fun both => same (sameIndex.mpr both)]

/-- The channels of a module, one after the other. -/
def visitAll (moduleAddress : Nat) (change : Nat → PointValue → PointValue)
    (channels : List Nat) (table : BinaryTable) : BinaryTable :=
  channels.foldl (fun table channel => table.visit moduleAddress channel (change channel)) table

variable {moduleAddress} (change : Nat → PointValue → PointValue) (channels : List Nat)

theorem sameFrame_visitAll : SameFrame table (table.visitAll moduleAddress change channels) := by
  induction channels generalizing table with
  | nil => exact .refl table
  | cons channel rest ih => exact (sameFrame_visit table _ _ _).trans (ih _)

theorem visitAll_value {table : BinaryTable} {key : MD3PointKey}
    (member : key ∈ table.layout.keys) (small : moduleAddress < 256)
    (inModule : ∀ channel ∈ channels, channel < 16) (apart : channels.Nodup) :
    (table.visitAll moduleAddress change channels).value key.md3Index =
      if key.moduleAddress = moduleAddress ∧ key.channel ∈ channels then
        change key.channel (table.value key.md3Index)
      else table.value key.md3Index := by
  induction channels generalizing table with
  | nil => simp [visitAll]
  | cons channel rest ih =>
      obtain ⟨fresh, restApart⟩ := List.nodup_cons.mp apart
      obtain ⟨sameLayout, -⟩ := sameFrame_visit table moduleAddress channel (change channel)
      have later := @ih (table.visit moduleAddress channel (change channel))
        (by rw [sameLayout]; exact member) (fun j after => inModule j (.tail _ after)) restApart
      rw [visitAll, List.foldl_cons]
      refine later.trans ?_
      rw [visit_value table moduleAddress channel member small (inModule channel (.head _))]
      by_cases sameModule : key.moduleAddress = moduleAddress
      · by_cases sameChannel : key.channel = channel
        · subst sameChannel
          simp [sameModule, fresh]
        · simp [sameModule, sameChannel]
      · simp [sameModule]

end Visit

/-! ## Module words -/

section Words

/-- A channel has its bit in the word, and no other bit. -/
theorem getLsbD_withChannel (wordres : BitVec 16) {j channel : Nat} (inModule : channel < 16)
    (inRange : j < 16) (bitres : Option Bool) :
    (withChannel wordres j bitres).getLsbD (15 - channel) =
      (wordres.getLsbD (15 - channel) || decide (channel = j ∧ bitres = some true)) := by
  unfold withChannel
  rw [BitVec.getLsbD_or]
  congr 1
  by_cases set : bitres = some true
  · rw [if_pos set, BitVec.getLsbD_shiftLeft, BitVec.getLsbD_one]
    by_cases same : channel = j
    · subst same
      simp [set]
      omega
    · simp [set, same]
      omega
  · rw [if_neg set]
    simp [set]

theorem getLsbD_foldl_withChannel (bit : Nat → Option Bool) (channels : List Nat)
    (inRange : ∀ j ∈ channels, j < 16) (wordres : BitVec 16) {channel : Nat}
    (inModule : channel < 16) :
    (channels.foldl (fun wordres j => withChannel wordres j (bit j)) wordres).getLsbD
        (15 - channel) =
      (wordres.getLsbD (15 - channel) ||
        decide (channel ∈ channels ∧ bit channel = some true)) := by
  induction channels generalizing wordres with
  | nil => simp
  | cons j rest ih =>
      rw [List.foldl_cons, ih (fun other after => inRange other (.tail _ after)),
        getLsbD_withChannel wordres inModule (inRange j (.head _)), Bool.or_assoc]
      congr 1
      by_cases same : channel = j
      · subst same
        simp
      · simp [same]

/-- **The word of a module has the value of each of its points.** -/
theorem getLsbD_collectModuleBitsIntoWord (table : BinaryTable) {key : MD3PointKey}
    (member : key ∈ table.layout.keys) :
    (table.collectModuleBitsIntoWord key.moduleAddress).getLsbD (15 - key.channel) =
      (table.value key.md3Index).binary := by
  have inModule := (table.layout.inRange key member).2
  rw [collectModuleBitsIntoWord,
    getLsbD_foldl_withChannel _ _ (fun j inside => List.mem_range.mp inside) _ inModule,
    getBinaryValueUsingMD3Index, BinaryLayout.findMD3_of_mem member rfl]
  simp [inModule]

/-- The word depends on the layout and the values alone. -/
theorem collectModuleBitsIntoWord_congr {first second : BinaryTable}
    (sameLayout : first.layout = second.layout)
    (sameBits : ∀ index, (first.value index).binary = (second.value index).binary)
    (moduleAddress : Nat) :
    first.collectModuleBitsIntoWord moduleAddress =
      second.collectModuleBitsIntoWord moduleAddress := by
  have sameRead : ∀ j, first.getBinaryValueUsingMD3Index moduleAddress j =
      second.getBinaryValueUsingMD3Index moduleAddress j := by
    intro j
    rw [getBinaryValueUsingMD3Index, getBinaryValueUsingMD3Index, sameLayout]
    exact congrArg (fun f => (second.layout.findMD3 moduleAddress j).map f)
      (funext fun key => sameBits key.md3Index)
  rw [collectModuleBitsIntoWord, collectModuleBitsIntoWord]
  exact congrArg (fun f => (List.range 16).foldl f 0#16)
    (funext fun wordres => funext fun j => by rw [sameRead])

/-- Clear the mark of a point. -/
def clearChanged (value : PointValue) : PointValue := { value with changed := false }

theorem getBinaryValueAndReset_eq (table : BinaryTable) (moduleAddress channel : Nat) :
    table.getBinaryValueAndResetUsingMD3Index moduleAddress channel =
      (table.visit moduleAddress channel clearChanged,
        table.getBinaryValueUsingMD3Index moduleAddress channel) := by
  unfold getBinaryValueAndResetUsingMD3Index visit getBinaryValueUsingMD3Index
  cases table.layout.findMD3 moduleAddress channel with
  | none => rfl
  | some key => rfl

theorem visit_clearChanged_binary (table : BinaryTable) (moduleAddress channel index : Nat) :
    ((table.visit moduleAddress channel clearChanged).value index).binary =
      (table.value index).binary := by
  unfold visit
  cases table.layout.findMD3 moduleAddress channel with
  | none => rfl
  | some key =>
      simp only [modify_value]
      split
      · next same => rw [same]; rfl
      · rfl

/-- Reading a point does not change what is read of the others. -/
theorem getBinaryValue_visit_clearChanged (table : BinaryTable)
    (moduleAddress channel otherModule other : Nat) :
    (table.visit moduleAddress channel clearChanged).getBinaryValueUsingMD3Index otherModule
        other =
      table.getBinaryValueUsingMD3Index otherModule other := by
  rw [getBinaryValueUsingMD3Index, getBinaryValueUsingMD3Index,
    (sameFrame_visit table moduleAddress channel clearChanged).1]
  exact congrArg (fun f => (table.layout.findMD3 otherModule other).map f)
    (funext fun key => visit_clearChanged_binary table moduleAddress channel key.md3Index)

theorem foldl_collectChannel (moduleAddress : Nat) (channels : List Nat) (table : BinaryTable)
    (wordres : BitVec 16) :
    channels.foldl (collectChannel moduleAddress) (table, wordres) =
      (table.visitAll moduleAddress (fun _ => clearChanged) channels,
        channels.foldl (fun wordres j =>
          withChannel wordres j (table.getBinaryValueUsingMD3Index moduleAddress j)) wordres) := by
  induction channels generalizing table wordres with
  | nil => rfl
  | cons channel rest ih =>
      rw [List.foldl_cons, collectChannel, getBinaryValueAndReset_eq, ih, visitAll, visitAll,
        List.foldl_cons, List.foldl_cons]
      simp only [getBinaryValue_visit_clearChanged]

/-- **The word is the same as without clearing, and the marks of the module are cleared.** -/
theorem collectModuleBitsIntoWordandResetChangeFlags_eq (table : BinaryTable)
    (moduleAddress : Nat) :
    table.collectModuleBitsIntoWordandResetChangeFlags moduleAddress =
      (table.visitAll moduleAddress (fun _ => clearChanged) (List.range 16),
        table.collectModuleBitsIntoWord moduleAddress) :=
  foldl_collectChannel moduleAddress (List.range 16) table 0#16

/-- What the master makes of a bit. -/
def acceptBit (meas : Bool) (now : Nat) (value : PointValue) : PointValue :=
  if value.binary ≠ meas ∨ value.hasBeenSet = false then value.setBinary meas now else value

theorem acceptBit_binary (meas : Bool) (now : Nat) (value : PointValue) :
    (acceptBit meas now value).binary = meas := by
  unfold acceptBit
  split
  · rfl
  · next neither => exact not_not.mp fun differs => neither (.inl differs)

theorem modify_of_eq (table : BinaryTable) {index : Nat} {change : PointValue → PointValue}
    (same : change (table.value index) = table.value index) : table.modify index change = table := by
  rw [modify, same, Function.update_eq_self]

theorem setBinaryValueUsingMD3Index_fst (table : BinaryTable) (moduleAddress channel : Nat)
    (meas : Bool) (now : Nat) :
    (table.setBinaryValueUsingMD3Index moduleAddress channel meas now).1 =
      table.visit moduleAddress channel (acceptBit meas now) := by
  unfold setBinaryValueUsingMD3Index visit
  cases table.layout.findMD3 moduleAddress channel with
  | none => rfl
  | some key =>
      dsimp only
      split
      · next differs => simp only [modify, acceptBit, if_pos differs]
      · next same =>
          have stays : acceptBit meas now (table.value key.md3Index) = table.value key.md3Index :=
            if_neg same
          exact (modify_of_eq table stays).symm

theorem generateChannel_fst (moduleData : BitVec 16) (moduleAddress eventtime now : Nat)
    (state : BinaryTable × List PublishedBinary) (idx : Nat) :
    (generateChannel moduleData moduleAddress eventtime now state idx).1 =
      state.1.visit moduleAddress idx (acceptBit (moduleData.getLsbD (15 - idx)) now) := by
  rw [← setBinaryValueUsingMD3Index_fst]
  unfold generateChannel
  dsimp only
  split
  · cases state.1.layout.findMD3 moduleAddress idx with
    | none => rfl
    | some key => rfl
  · rfl

theorem foldl_generateChannel_fst (moduleData : BitVec 16) (moduleAddress eventtime now : Nat)
    (channels : List Nat) (state : BinaryTable × List PublishedBinary) :
    (channels.foldl (generateChannel moduleData moduleAddress eventtime now) state).1 =
      state.1.visitAll moduleAddress
        (fun idx => acceptBit (moduleData.getLsbD (15 - idx)) now) channels := by
  induction channels generalizing state with
  | nil => rfl
  | cons idx rest ih => rw [List.foldl_cons, ih, generateChannel_fst, visitAll, visitAll,
      List.foldl_cons]

variable (table : BinaryTable) (moduleData : BitVec 16) (moduleAddress eventtime now : Nat)

theorem sameFrame_generateODCEvents :
    SameFrame table (table.generateODCEventsFromMD3ModuleWord moduleData moduleAddress eventtime
      now).1 := by
  rw [generateODCEventsFromMD3ModuleWord, foldl_generateChannel_fst]
  exact sameFrame_visitAll _ _ _

/-- **After a word each point of its module has its bit, and the other points are as before.** -/
theorem binary_generateODCEvents {table : BinaryTable} {key : MD3PointKey}
    (member : key ∈ table.layout.keys) (small : moduleAddress < 256) :
    ((table.generateODCEventsFromMD3ModuleWord moduleData moduleAddress eventtime
        now).1.value key.md3Index).binary =
      if key.moduleAddress = moduleAddress then moduleData.getLsbD (15 - key.channel)
      else (table.value key.md3Index).binary := by
  have inModule := (table.layout.inRange key member).2
  rw [generateODCEventsFromMD3ModuleWord, foldl_generateChannel_fst,
    visitAll_value _ _ member small (fun j inside => List.mem_range.mp inside) List.nodup_range]
  by_cases same : key.moduleAddress = moduleAddress
  · simp only [same, List.mem_range, inModule, and_self, if_true, acceptBit_binary]
  · simp only [same, false_and, if_false]

end Words

end BinaryTable

end OpenDataCon.MD3Port
