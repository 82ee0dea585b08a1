import OpenDataCon.MD3Port.AnalogScan
import OpenDataCon.MD3Port.DigitalBlocks
import OpenDataCon.MD3Port.DigitalEvents

/-!
# Digital scans at the outstation

The answer to a digital scan has a header, the words of changed modules and a stream of words
for the events on the queue. A scan with the sequence number of the last one gets the stored
answer again. With the number zero every point is marked as changed first, and the answer is
built anew every time.

`buildScanReturnBlocks_eq` says what a block of module words has and which marks it clears, and
`countBinaryBlocksWithChanges_eq_zero` when the outstation takes nothing to be changed.
-/

set_option autoImplicit false

namespace OpenDataCon.MD3Port

open MD3BlockData

/-! ## Changed modules -/

namespace BinaryTable

/-- Whether the point is marked as changed. -/
def isChanged (table : BinaryTable) (key : MD3PointKey) : Bool := (table.value key.md3Index).changed

/-- One turn of the count; `lastblock` is the module counted last. -/
def countChange (table : BinaryTable) (state : Option Nat × Nat) (key : MD3PointKey) :
    Option Nat × Nat :=
  if table.isChanged key ∧ state.1 ≠ some key.moduleAddress then
    (some key.moduleAddress, (state.2 + 1) % 256)
  else state

def countBinaryBlocksWithChanges (table : BinaryTable) : Nat :=
  (table.layout.keys.foldl (countChange table) (none, 0)).2

/-- Where the traversal is: whether it has come to the first module that is asked for, the
module listed last, and the list. -/
structure ModuleTraversal where
  weAreScanning : Bool
  lastModuleAddress : Nat := 0
  moduleList : List Nat := []

/-- One turn; `atStart` is what reaching the first module sets. -/
def ModuleTraversal.visit (table : BinaryTable) (startModuleAddress : Nat) (atStart : Bool)
    (state : ModuleTraversal) (key : MD3PointKey) : ModuleTraversal :=
  let weAreScanning :=
    if key.moduleAddress = startModuleAddress then atStart else state.weAreScanning
  if weAreScanning ∧ table.isChanged key ∧ state.lastModuleAddress ≠ key.moduleAddress then
    { weAreScanning, lastModuleAddress := key.moduleAddress
      moduleList := state.moduleList ++ [key.moduleAddress] }
  else { state with weAreScanning }

/-- The modules with changes, from a start module on and around to it again. -/
def buildListOfModuleAddressesWithChanges (table : BinaryTable) (startModuleAddress : Nat) :
    List Nat :=
  let first := table.layout.keys.foldl (ModuleTraversal.visit table startModuleAddress true)
    { weAreScanning := startModuleAddress == 0 }
  if startModuleAddress ≠ 0 then
    (table.layout.keys.foldl (ModuleTraversal.visit table startModuleAddress false)
      first).moduleList
  else first.moduleList

/-- A channel without a point counts as changed. -/
def dataChanged (table : BinaryTable) (moduleAddress : Nat) : Bool :=
  (List.range 16).any fun j =>
    (table.getBinaryChangedUsingMD3Index moduleAddress j).getD true

/-- The modules of a range, all of them or those with changes. -/
def buildListOfModuleAddressesGivenRange (table : BinaryTable)
    (numberOfDataBlocks startModuleAddress : Nat) (forcesend : Bool) : List Nat :=
  ((List.range numberOfDataBlocks).filter fun i =>
    table.dataChanged (startModuleAddress + i) || forcesend).map fun i =>
      (startModuleAddress + i) % 256

/-- The block of a module: its address, no offset, and its word. -/
def moduleBlock (moduleAddress : Nat) (wordres : BitVec 16) : MD3BlockData :=
  words (BitVec.ofNat 16 moduleAddress <<< 8) wordres

def scanReturnBlock (state : BinaryTable × MD3Message) (moduleAddress : Nat) :
    BinaryTable × MD3Message :=
  let read := state.1.collectModuleBitsIntoWordandResetChangeFlags moduleAddress
  (read.1, state.2 ++ [moduleBlock moduleAddress read.2])

/-- The blocks of the modules, up to a number of them, in the format for events. -/
def buildScanReturnBlocksFromList (table : BinaryTable) (moduleList : List Nat)
    (maxNumberOfDataBlocks : Nat) : BinaryTable × MD3Message :=
  (moduleList.take maxNumberOfDataBlocks).foldl scanReturnBlock (table, [])

end BinaryTable

/-! ## Scans -/

/-- What the outstation keeps for digital scans. -/
structure DigitalOutstation where
  table : BinaryTable
  lastDigitalScanSequenceNumber : Nat := 0
  lastDigitialScanResponseMD3Message : MD3Message := []
  soeTimeOffsetMinutes : Int := 0
  RSF : Bool := true

namespace DigitalOutstation

def timeTaggedDataAvailable (outstation : DigitalOutstation) : Bool :=
  !outstation.table.binaryTimeTaggedEventQueue.isEmpty

def digitalChangedFlagCalculationMethod (outstation : DigitalOutstation) : Bool :=
  decide (0 < outstation.table.countBinaryBlocksWithChanges)

/-- The flags as they are now. -/
def flags (outstation : DigitalOutstation) : SystemFlags where
  RSF := outstation.RSF
  HRP := outstation.timeTaggedDataAvailable
  DCP := outstation.digitalChangedFlagCalculationMethod

/-- The last scan is asked for again. -/
def isRepeat (outstation : DigitalOutstation) (header : MD3BlockData) : Bool :=
  header.getDigitalSequenceNumber == outstation.lastDigitalScanSequenceNumber &&
    header.getDigitalSequenceNumber != 0

/-- Keep the answer for when the scan is asked for again. -/
def keep (outstation : DigitalOutstation) (header : MD3BlockData) (response : MD3Message) :
    DigitalOutstation :=
  { outstation with
    lastDigitalScanSequenceNumber := header.getDigitalSequenceNumber
    lastDigitialScanResponseMD3Message := response }

/-- Take events from the queue. -/
def takeEvents (outstation : DigitalOutstation) (header : MD3BlockData) :
    DigitalOutstation × TaggedWords :=
  if outstation.timeTaggedDataAvailable then
    let tagged := fn11AddTimeTaggedDataToResponseWords outstation.soeTimeOffsetMinutes
      header.getTaggedEventCount 0 0 outstation.table.binaryTimeTaggedEventQueue
    ({ outstation with
        table := { outstation.table with binaryTimeTaggedEventQueue := tagged.queue } }, tagged)
  else (outstation, { eventCount := 0 })

/-- An answer with data: module words and events. -/
def sendChanges (outstation : DigitalOutstation) (header : MD3BlockData) :
    DigitalOutstation × MD3Message :=
  let changedBlocks := outstation.table.countBinaryBlocksWithChanges
  let formattedBlock := MD3BlockFn11StoM header.getStationAddress 0
    header.getDigitalSequenceNumber (min changedBlocks header.getModuleCount)
  let moduleList := outstation.table.buildListOfModuleAddressesWithChanges 0
  let read := outstation.table.buildScanReturnBlocksFromList moduleList header.getModuleCount
  let popped := ({ outstation with table := read.1 }).takeEvents header
  let flags := popped.1.flags
  (popped.1, formattedBlock.answered read.2.length popped.2.eventCount flags.RSF flags.HRP flags.DCP
    :: (read.2 ++ wordBlocks popped.2.responseWords))

/-- Function 11. -/
def doDigitalScan (outstation : DigitalOutstation) (header : MD3BlockData) :
    DigitalOutstation × MD3Message :=
  if outstation.isRepeat header then (outstation, outstation.lastDigitialScanResponseMD3Message)
  else
    let outstation := if header.getDigitalSequenceNumber = 0 then
        { outstation with table := outstation.table.markAllBinaryPointsAsChanged }
      else outstation
    let answer :=
      if outstation.table.countBinaryBlocksWithChanges = 0 ∧
          outstation.timeTaggedDataAvailable = false then
        (outstation, [(MD3BlockFn14StoM header.getStationAddress
          header.getDigitalSequenceNumber).setFlags outstation.flags.RSF outstation.flags.HRP
            outstation.flags.DCP])
      else outstation.sendChanges header
    (answer.1.keep header answer.2, answer.2)

/-- Function 12: all modules of a range, without events. -/
def doDigitalUnconditional (outstation : DigitalOutstation) (header : MD3BlockData) :
    DigitalOutstation × MD3Message :=
  if outstation.isRepeat header then (outstation, outstation.lastDigitialScanResponseMD3Message)
  else
    let moduleList := outstation.table.buildListOfModuleAddressesGivenRange header.getModuleCount
      header.getModuleAddress true
    let formattedBlock := MD3BlockFn11StoM header.getStationAddress 0
      header.getDigitalSequenceNumber header.getModuleCount
    let read := outstation.table.buildScanReturnBlocksFromList moduleList header.getModuleCount
    let answering := { outstation with table := read.1 }
    let flags := answering.flags
    let response := ((formattedBlock.setModuleCount read.2.length).setFlags flags.RSF flags.HRP
      flags.DCP) :: read.2
    (answering.keep header response, response)

end DigitalOutstation

/-! ## Module words -/

namespace BinaryTable

/-- Clear the marks of the points of a module. -/
def clearModule (moduleAddress : Nat) (table : BinaryTable) : BinaryTable :=
  table.visitAll moduleAddress (fun _ => clearChanged) (List.range 16)

def clearModules (modules : List Nat) (table : BinaryTable) : BinaryTable :=
  modules.foldl (fun table moduleAddress => table.clearModule moduleAddress) table

section Clearing

variable (modules : List Nat) (table : BinaryTable)

theorem clearModules_cons (moduleAddress : Nat) :
    table.clearModules (moduleAddress :: modules) =
      (table.clearModule moduleAddress).clearModules modules :=
  List.foldl_cons ..

theorem sameFrame_clearModule (moduleAddress : Nat) :
    SameFrame table (table.clearModule moduleAddress) :=
  sameFrame_visitAll table _ _

theorem sameFrame_clearModules : SameFrame table (table.clearModules modules) := by
  induction modules generalizing table with
  | nil => exact .refl table
  | cons moduleAddress rest ih =>
      rw [clearModules_cons]
      exact (sameFrame_clearModule table moduleAddress).trans (ih _)

theorem visitAll_clearChanged_binary (moduleAddress index : Nat) (channels : List Nat) :
    ((table.visitAll moduleAddress (fun _ => clearChanged) channels).value index).binary =
      (table.value index).binary := by
  induction channels generalizing table with
  | nil => rfl
  | cons channel rest ih =>
      rw [visitAll, List.foldl_cons]
      exact (ih _).trans (visit_clearChanged_binary table _ _ _)

theorem clearModule_binary (moduleAddress index : Nat) :
    ((table.clearModule moduleAddress).value index).binary = (table.value index).binary := by
  rw [clearModule, visitAll_clearChanged_binary]

theorem clearModule_value {table : BinaryTable} {key : MD3PointKey}
    (member : key ∈ table.layout.keys) {moduleAddress : Nat} (small : moduleAddress < 256) :
    (table.clearModule moduleAddress).value key.md3Index =
      if key.moduleAddress = moduleAddress then clearChanged (table.value key.md3Index)
      else table.value key.md3Index := by
  have inModule := (table.layout.inRange key member).2
  rw [clearModule, visitAll_value _ _ member small (fun j inside => List.mem_range.mp inside)
    List.nodup_range]
  simp only [List.mem_range, inModule, and_true]

/-- **The marks of the modules are cleared, and all else stays.** -/
theorem clearModules_value {table : BinaryTable} {key : MD3PointKey}
    (member : key ∈ table.layout.keys) (small : ∀ moduleAddress ∈ modules, moduleAddress < 256) :
    (table.clearModules modules).value key.md3Index =
      if key.moduleAddress ∈ modules then clearChanged (table.value key.md3Index)
      else table.value key.md3Index := by
  induction modules generalizing table with
  | nil => rfl
  | cons moduleAddress rest ih =>
      have still : key ∈ (table.clearModule moduleAddress).layout.keys := by
        rw [(sameFrame_clearModule table moduleAddress).1]
        exact member
      rw [clearModules_cons, ih still fun other after => small other (.tail _ after),
        clearModule_value member (small moduleAddress (.head _))]
      by_cases same : key.moduleAddress = moduleAddress
      · simp [same, clearChanged]
      · simp [same]

/-- The block of each of the modules. -/
def moduleBlocks (modules : List Nat) : MD3Message :=
  modules.map fun moduleAddress =>
    moduleBlock moduleAddress (table.collectModuleBitsIntoWord moduleAddress)

/-- One block after the other is built from the word of its module, in any format. -/
theorem foldl_collect (makeBlock : Nat → BitVec 16 → MD3BlockData) {now : BinaryTable}
    (sameLayout : now.layout = table.layout)
    (sameBits : ∀ index, (now.value index).binary = (table.value index).binary)
    (before : MD3Message) :
    modules.foldl (fun state moduleAddress =>
        let read := state.1.collectModuleBitsIntoWordandResetChangeFlags moduleAddress
        (read.1, state.2 ++ [makeBlock moduleAddress read.2])) (now, before) =
      (now.clearModules modules, before ++ modules.map fun moduleAddress =>
        makeBlock moduleAddress (table.collectModuleBitsIntoWord moduleAddress)) := by
  induction modules generalizing now before with
  | nil => exact Prod.ext rfl (List.append_nil before).symm
  | cons moduleAddress rest ih =>
      have word := collectModuleBitsIntoWord_congr sameLayout sameBits moduleAddress
      have cleared := (sameFrame_clearModule now moduleAddress).1.trans sameLayout
      rw [List.foldl_cons, collectModuleBitsIntoWordandResetChangeFlags_eq, ← clearModule]
      dsimp only
      rw [ih cleared fun index =>
          (clearModule_binary now moduleAddress index).trans (sameBits index), clearModules_cons,
        word, List.append_assoc]
      rfl

/-- **The blocks have the words of the modules, whose marks are cleared.** -/
theorem buildScanReturnBlocks_eq (moduleList : List Nat) (maxNumberOfDataBlocks : Nat) :
    table.buildScanReturnBlocksFromList moduleList maxNumberOfDataBlocks =
      (table.clearModules (moduleList.take maxNumberOfDataBlocks),
        table.moduleBlocks (moduleList.take maxNumberOfDataBlocks)) :=
  foldl_collect _ table moduleBlock rfl (fun _ => rfl) []

end Clearing

/-! ## Changed modules -/

/-- Every module has an address from 1 on. -/
def Addressed (layout : BinaryLayout) : Prop := ∀ key ∈ layout.keys, 0 < key.moduleAddress

section Changed

variable {table : BinaryTable}

/-- A listed module has a point with a mark. -/
theorem mem_foldl_visit {startModuleAddress : Nat} {atStart : Bool} {keys : List MD3PointKey}
    {state : ModuleTraversal} {moduleAddress : Nat}
    (listed : moduleAddress ∈
      (keys.foldl (ModuleTraversal.visit table startModuleAddress atStart) state).moduleList) :
    moduleAddress ∈ state.moduleList ∨
      ∃ key ∈ keys, key.moduleAddress = moduleAddress ∧ table.isChanged key = true := by
  induction keys generalizing state with
  | nil => exact .inl listed
  | cons key rest ih =>
      rcases ih listed with before | ⟨other, after, same, changed⟩
      · unfold ModuleTraversal.visit at before
        dsimp only at before
        by_cases visited : (if key.moduleAddress = startModuleAddress then atStart
            else state.weAreScanning) = true ∧ table.isChanged key = true ∧
              state.lastModuleAddress ≠ key.moduleAddress
        · rw [if_pos visited] at before
          rcases List.mem_append.mp before with earlier | now
          · exact .inl earlier
          · exact .inr ⟨key, .head _, (List.mem_singleton.mp now).symm, visited.2.1⟩
        · rw [if_neg visited] at before
          exact .inl before
      · exact .inr ⟨other, .tail _ after, same, changed⟩

theorem mem_buildListOfModuleAddressesWithChanges {moduleAddress : Nat}
    (listed : moduleAddress ∈ table.buildListOfModuleAddressesWithChanges 0) :
    ∃ key ∈ table.layout.keys, key.moduleAddress = moduleAddress ∧
      table.isChanged key = true := by
  rcases mem_foldl_visit listed with before | point
  · cases before
  · exact point

/-- The points are in the order of their modules. -/
theorem moduleAddress_le {first second : MD3PointKey} (firstRange : first.InRange)
    (secondRange : second.InRange) (before : first.Before second) :
    first.moduleAddress ≤ second.moduleAddress := by
  obtain ⟨firstModule, firstChannel⟩ := firstRange
  obtain ⟨secondModule, secondChannel⟩ := secondRange
  unfold MD3PointKey.Before MD3PointKey.md3Index MD3Port.md3Index at before
  omega

/-- The count so far: it never passes the address of the module counted last. -/
def CountInStep (state : Option Nat × Nat) (keys : List MD3PointKey) : Prop :=
  match state.1 with
  | none => state.2 = 0
  | some last => 0 < state.2 ∧ state.2 ≤ last ∧ ∀ key ∈ keys, last ≤ key.moduleAddress

/-- The count stays zero only while no mark is found. -/
theorem foldl_countChange_eq_zero {keys : List MD3PointKey} {state : Option Nat × Nat}
    (ordered : keys.Pairwise MD3PointKey.Before) (inRange : ∀ key ∈ keys, key.InRange)
    (addressed : ∀ key ∈ keys, 0 < key.moduleAddress) (inStep : CountInStep state keys) :
    (keys.foldl (countChange table) state).2 = 0 ↔
      state.1 = none ∧ ∀ key ∈ keys, table.isChanged key = false := by
  induction keys generalizing state with
  | nil =>
      obtain ⟨lastblock, changedblocks⟩ := state
      cases lastblock with
      | none =>
          have zero : changedblocks = 0 := inStep
          simp [zero]
      | some last =>
          have positive : 0 < changedblocks := inStep.1
          simp
          omega
  | cons key rest ih =>
      obtain ⟨lastblock, changedblocks⟩ := state
      obtain ⟨beforeRest, restOrdered⟩ := List.pairwise_cons.mp ordered
      have keyRange := inRange key (.head _)
      have restRange : ∀ other ∈ rest, other.InRange := fun other after =>
        inRange other (.tail _ after)
      have restAddressed : ∀ other ∈ rest, 0 < other.moduleAddress := fun other after =>
        addressed other (.tail _ after)
      have later : ∀ other ∈ rest, key.moduleAddress ≤ other.moduleAddress := fun other after =>
        moduleAddress_le keyRange (restRange other after) (beforeRest other after)
      have keyAddress := addressed key (.head _)
      have keySmall := keyRange.1
      rw [List.foldl_cons, countChange]
      by_cases counts : table.isChanged key = true ∧ lastblock ≠ some key.moduleAddress
      · have stepped : 0 < (changedblocks + 1) % 256 ∧
            (changedblocks + 1) % 256 ≤ key.moduleAddress := by
          cases lastblock with
          | none =>
              have zero : changedblocks = 0 := inStep
              subst zero
              exact ⟨by decide, keyAddress⟩
          | some last =>
              obtain ⟨positive, atMost, below⟩ := inStep
              have belowKey := below key (.head _)
              have apart : last ≠ key.moduleAddress := fun same =>
                counts.2 (congrArg some same)
              have small : changedblocks + 1 < 256 := by
                dsimp only at atMost
                omega
              rw [Nat.mod_eq_of_lt small]
              dsimp only at atMost
              omega
        have nextInStep : CountInStep (some key.moduleAddress, (changedblocks + 1) % 256) rest :=
          ⟨stepped.1, stepped.2, later⟩
        rw [if_pos counts, ih restOrdered restRange restAddressed nextInStep]
        simp [counts.1]
      · rw [if_neg counts, ih restOrdered restRange restAddressed (by
          cases lastblock with
          | none => exact inStep
          | some last =>
              exact ⟨inStep.1, inStep.2.1, fun other after => inStep.2.2 other (.tail _ after)⟩)]
        constructor
        · rintro ⟨fresh, unchanged⟩
          refine ⟨fresh, ?_⟩
          intro other member
          rcases List.mem_cons.mp member with rfl | after
          · dsimp only at fresh
            simpa [fresh] using counts
          · exact unchanged other after
        · rintro ⟨fresh, unchanged⟩
          exact ⟨fresh, fun other after => unchanged other (.tail _ after)⟩

/-- **The count is zero exactly when no point has a mark.** -/
theorem countBinaryBlocksWithChanges_eq_zero (addressed : Addressed table.layout) :
    table.countBinaryBlocksWithChanges = 0 ↔
      ∀ key ∈ table.layout.keys, table.isChanged key = false := by
  have start : CountInStep (none, 0) table.layout.keys := rfl
  rw [countBinaryBlocksWithChanges, foldl_countChange_eq_zero table.layout.ordered
    table.layout.inRange addressed start]
  simp

end Changed

end BinaryTable

end OpenDataCon.MD3Port
