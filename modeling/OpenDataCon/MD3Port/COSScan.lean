import OpenDataCon.Foundations.OrderedTraversals
import OpenDataCon.MD3Port.DigitalScan

/-!
# The scan for changed modules

A master asks for the changed modules from one on, and around to it again. The outstation goes
through the points twice, with one flag for whether it has come to the module that was asked
for: the first traversal sets the flag there, the second one clears it there.

Where the module has a point, or where it is zero, the list has every changed module once, in
order from the first module on (`listsChanges_iff`). Where it has none, the flag is never set
and no module is listed, whatever has changed; the answer then has no block at all
(`cosScan_iff`).
-/

set_option autoImplicit false

namespace OpenDataCon.MD3Port

open MD3BlockData OrderedTraversals

namespace BinaryTable

variable {table : BinaryTable}

/-! ## The two traversals -/

/-- A traversal that has come to the first module lists the changed modules. -/
theorem foldl_visit_scanning {startModuleAddress : Nat} {atStart : Bool} {keys : List MD3PointKey}
    (goesOn : ∀ key ∈ keys, key.moduleAddress = startModuleAddress → atStart = true)
    (last : Nat) (listed : List Nat) :
    keys.foldl (ModuleTraversal.visit table startModuleAddress atStart) ⟨true, last, listed⟩ =
      let ended := ((keys.filter table.isChanged).map MD3PointKey.moduleAddress).foldl listOnce
        (last, listed)
      ⟨true, ended.1, ended.2⟩ := by
  induction keys generalizing last listed with
  | nil => rfl
  | cons key rest ih =>
      have restGoesOn : ∀ other ∈ rest, other.moduleAddress = startModuleAddress →
          atStart = true := fun other member => goesOn other (.tail _ member)
      have scanning : (if key.moduleAddress = startModuleAddress then atStart else true) = true := by
        by_cases here : key.moduleAddress = startModuleAddress
        · rw [if_pos here, goesOn key (.head _) here]
        · rw [if_neg here]
      rw [List.foldl_cons, ModuleTraversal.visit]
      dsimp only
      rw [scanning]
      cases changed : table.isChanged key with
      | false =>
          rw [if_neg (by simp), List.filter_cons_of_neg (by simp [changed])]
          exact ih restGoesOn last listed
      | true =>
          rw [List.filter_cons_of_pos changed, List.map_cons, List.foldl_cons, listOnce]
          by_cases again : last = key.moduleAddress
          · rw [if_neg (by simp [again]), if_neg (by simp [again])]
            exact ih restGoesOn last listed
          · rw [if_pos ⟨rfl, rfl, again⟩, if_pos again]
            exact ih restGoesOn _ _

/-- A traversal that has not come to it, or is past it, lists nothing. -/
theorem foldl_visit_idle {startModuleAddress : Nat} {atStart : Bool} {keys : List MD3PointKey}
    (staysIdle : ∀ key ∈ keys, key.moduleAddress = startModuleAddress → atStart = false)
    (last : Nat) (listed : List Nat) :
    keys.foldl (ModuleTraversal.visit table startModuleAddress atStart) ⟨false, last, listed⟩ =
      ⟨false, last, listed⟩ := by
  induction keys with
  | nil => rfl
  | cons key rest ih =>
      have idle : (if key.moduleAddress = startModuleAddress then atStart else false) = false := by
        by_cases here : key.moduleAddress = startModuleAddress
        · rw [if_pos here, staysIdle key (.head _) here]
        · rw [if_neg here]
      rw [List.foldl_cons, ModuleTraversal.visit]
      dsimp only
      rw [idle, if_neg (by simp)]
      exact ih fun other member => staysIdle other (.tail _ member)

/-- The first point of the module that is asked for sets the flag, whatever it was. -/
theorem foldl_visit_reached {key : MD3PointKey} {rest : List MD3PointKey} (atStart flag : Bool)
    (last : Nat) (listed : List Nat) :
    (key :: rest).foldl (ModuleTraversal.visit table key.moduleAddress atStart)
        ⟨flag, last, listed⟩ =
      (key :: rest).foldl (ModuleTraversal.visit table key.moduleAddress atStart)
        ⟨atStart, last, listed⟩ := by
  rw [List.foldl_cons, List.foldl_cons, ModuleTraversal.visit, ModuleTraversal.visit, if_pos rfl,
    if_pos rfl]

/-! ## What is listed -/

/-- A module has a point with a mark. -/
def ModuleChanged (table : BinaryTable) (moduleAddress : Nat) : Prop :=
  ∃ key ∈ table.layout.keys, table.isChanged key = true ∧ key.moduleAddress = moduleAddress

/-- Every changed module once: in order from the start on, and then in order those below. -/
def ListsChanges (table : BinaryTable) (startModuleAddress : Nat) (moduleList : List Nat) : Prop :=
  ∃ fromStart below, moduleList = fromStart ++ below ∧
    fromStart.Pairwise (· < ·) ∧ below.Pairwise (· < ·) ∧
    (∀ moduleAddress, moduleAddress ∈ fromStart ↔
      table.ModuleChanged moduleAddress ∧ startModuleAddress ≤ moduleAddress) ∧
    ∀ moduleAddress, moduleAddress ∈ below ↔
      table.ModuleChanged moduleAddress ∧ moduleAddress < startModuleAddress

/-- The module that is asked for is zero or has a point, or no point has a mark. -/
def StartKnown (table : BinaryTable) (startModuleAddress : Nat) : Prop :=
  startModuleAddress = 0 ∨
    (∃ key ∈ table.layout.keys, key.moduleAddress = startModuleAddress) ∨
      ∀ key ∈ table.layout.keys, table.isChanged key = false

theorem keys_sorted (table : BinaryTable) :
    table.layout.keys.Pairwise fun first second =>
      first.moduleAddress ≤ second.moduleAddress :=
  table.layout.ordered.imp_of_mem fun isFirst isSecond before =>
    moduleAddress_le (table.layout.inRange _ isFirst) (table.layout.inRange _ isSecond) before

/-- A traversal that has come to the first module lists the changed modules of the points in
order. -/
theorem exists_foldl_visit {startModuleAddress : Nat} {atStart : Bool} {keys : List MD3PointKey}
    (goesOn : ∀ key ∈ keys, key.moduleAddress = startModuleAddress → atStart = true)
    (sorted : keys.Pairwise fun first second => first.moduleAddress ≤ second.moduleAddress)
    {last : Nat} {listed : List Nat}
    (apart : (∀ key ∈ keys, last < key.moduleAddress) ∨
      ∀ key ∈ keys, key.moduleAddress < last) :
    ∃ new lastListed,
      keys.foldl (ModuleTraversal.visit table startModuleAddress atStart) ⟨true, last, listed⟩ =
        ⟨true, lastListed, listed ++ new⟩ ∧
      new.Pairwise (· < ·) ∧
      (∀ moduleAddress, moduleAddress ∈ new ↔
        ∃ key ∈ keys, table.isChanged key = true ∧ key.moduleAddress = moduleAddress) ∧
      (lastListed = last ∨ lastListed ∈ new) := by
  have addresses : ∀ moduleAddress, moduleAddress ∈
      (keys.filter table.isChanged).map MD3PointKey.moduleAddress ↔
        ∃ key ∈ keys, table.isChanged key = true ∧ key.moduleAddress = moduleAddress := by
    intro moduleAddress
    simp only [List.mem_map, List.mem_filter, and_assoc]
  have absent : last ∉ (keys.filter table.isChanged).map MD3PointKey.moduleAddress := by
    intro member
    obtain ⟨key, inKeys, -, same⟩ := (addresses last).mp member
    rcases apart with above | below
    · exact (above key inKeys).ne same.symm
    · exact (below key inKeys).ne same
  obtain ⟨new, isNew, newSorted, members, ends⟩ :=
    @foldl_listOnce _ _ _ (List.pairwise_map.mpr (sorted.filter table.isChanged)) last listed
      (.inr absent)
  refine ⟨new, _, ?_, newSorted, fun moduleAddress => ?_, ends⟩
  · rw [foldl_visit_scanning goesOn, ← isNew]
  · rw [members, addresses]
    exact ⟨fun here => here.1, fun here => ⟨here, fun same => absent
      (same ▸ (addresses moduleAddress).mpr here)⟩⟩

/-- From module zero on. -/
theorem listsChanges_zero (addressed : Addressed table.layout) :
    table.ListsChanges 0 (table.buildListOfModuleAddressesWithChanges 0) := by
  obtain ⟨new, lastListed, traversed, newSorted, members, -⟩ :=
    @exists_foldl_visit table 0 true _ (fun _ _ _ => rfl) table.keys_sorted 0 [] (.inl addressed)
  have isList : table.buildListOfModuleAddressesWithChanges 0 = new := by
    rw [buildListOfModuleAddressesWithChanges, if_neg (not_not_intro rfl)]
    exact congrArg ModuleTraversal.moduleList traversed
  rw [isList]
  refine ⟨new, [], (List.append_nil new).symm, newSorted, .nil, fun moduleAddress => ?_,
    fun moduleAddress => by simp⟩
  rw [members, ModuleChanged, and_iff_left (Nat.zero_le _)]

/-- From a module with a point on, and around to it. -/
theorem listsChanges_present (addressed : Addressed table.layout) {start : MD3PointKey}
    (present : start ∈ table.layout.keys) :
    table.ListsChanges start.moduleAddress
      (table.buildListOfModuleAddressesWithChanges start.moduleAddress) := by
  obtain ⟨lower, upper, parts, below, above⟩ :=
    exists_split_at MD3PointKey.moduleAddress table.keys_sorted start.moduleAddress
  have inLower : ∀ key ∈ lower, key ∈ table.layout.keys := fun key member =>
    parts ▸ List.mem_append_left _ member
  have inUpper : ∀ key ∈ upper, key ∈ table.layout.keys := fun key member =>
    parts ▸ List.mem_append_right _ member
  have sorted := table.keys_sorted
  rw [parts] at sorted
  obtain ⟨lowerSorted, upperSorted, -⟩ := List.pairwise_append.mp sorted
  -- the part from the start on begins with a point of the start
  obtain ⟨key, rest, rfl, isStart⟩ : ∃ key rest, upper = key :: rest ∧
      key.moduleAddress = start.moduleAddress := by
    have startInUpper : start ∈ upper := by
      rcases List.mem_append.mp (parts ▸ present) with isLower | isUpper
      · exact absurd rfl (below start isLower).ne
      · exact isUpper
    cases upper with
    | nil => cases startInUpper
    | cons key rest =>
        refine ⟨key, rest, rfl, Nat.le_antisymm ?_ (above key (.head _))⟩
        rcases List.mem_cons.mp startInUpper with rfl | later
        · exact Nat.le_refl _
        · exact (List.pairwise_cons.mp upperSorted).1 start later
  have noStart : ∀ other ∈ lower, other.moduleAddress ≠ start.moduleAddress :=
    fun other member => (below other member).ne
  obtain ⟨fromStart, lastListed, traversed, fromSorted, fromMembers, fromEnds⟩ :=
    @exists_foldl_visit table start.moduleAddress true _ (fun _ _ _ => rfl) upperSorted 0 []
      (.inl fun other member => addressed other (inUpper other member))
  have lastApart : (∀ other ∈ lower, lastListed < other.moduleAddress) ∨
      ∀ other ∈ lower, other.moduleAddress < lastListed := by
    rcases fromEnds with none | listed
    · exact .inl fun other member => none ▸ addressed other (inLower other member)
    · obtain ⟨lastKey, lastIn, -, isLast⟩ := (fromMembers lastListed).mp listed
      exact .inr fun other member => isLast ▸ (below other member).trans_le (above lastKey lastIn)
  obtain ⟨around, _, traversedAround, aroundSorted, aroundMembers, -⟩ :=
    @exists_foldl_visit table start.moduleAddress false _
      (fun other member same => absurd same (noStart other member)) lowerSorted lastListed
      ([] ++ fromStart) lastApart
  have isList : table.buildListOfModuleAddressesWithChanges start.moduleAddress =
      fromStart ++ around := by
    have positive : start.moduleAddress ≠ 0 := (addressed start present).ne'
    rw [buildListOfModuleAddressesWithChanges, if_pos positive, parts]
    have flag : (start.moduleAddress == 0) = false := beq_eq_false_iff_ne.mpr positive
    rw [flag, List.foldl_append, List.foldl_append,
      foldl_visit_idle (fun other member same => absurd same (noStart other member))]
    rw [← isStart] at traversed traversedAround ⊢
    rw [foldl_visit_reached true false, traversed, traversedAround,
      foldl_visit_reached false true, foldl_visit_idle fun _ _ _ => rfl]
    rfl
  rw [isList]
  refine ⟨fromStart, around, rfl, fromSorted, aroundSorted, fun moduleAddress => ?_,
    fun moduleAddress => ?_⟩
  · rw [fromMembers]
    constructor
    · rintro ⟨other, member, changed, rfl⟩
      exact ⟨⟨other, inUpper other member, changed, rfl⟩, above other member⟩
    · rintro ⟨⟨other, member, changed, rfl⟩, reached⟩
      rcases List.mem_append.mp (parts ▸ member) with isLower | isUpper
      · exact absurd reached (Nat.not_le.mpr (below other isLower))
      · exact ⟨other, isUpper, changed, rfl⟩
  · rw [aroundMembers]
    constructor
    · rintro ⟨other, member, changed, rfl⟩
      exact ⟨⟨other, inLower other member, changed, rfl⟩, below other member⟩
    · rintro ⟨⟨other, member, changed, rfl⟩, isBelow⟩
      rcases List.mem_append.mp (parts ▸ member) with isLower | isUpper
      · exact ⟨other, isLower, changed, rfl⟩
      · exact absurd isBelow (Nat.not_lt.mpr (above other isUpper))

/-- From a module without a point on, nothing is listed. -/
theorem buildList_absent {startModuleAddress : Nat} (positive : startModuleAddress ≠ 0)
    (absent : ∀ key ∈ table.layout.keys, key.moduleAddress ≠ startModuleAddress) :
    table.buildListOfModuleAddressesWithChanges startModuleAddress = [] := by
  have flag : (startModuleAddress == 0) = false := beq_eq_false_iff_ne.mpr positive
  rw [buildListOfModuleAddressesWithChanges, if_pos positive, flag,
    foldl_visit_idle fun key member same => absurd same (absent key member),
    foldl_visit_idle fun key member same => absurd same (absent key member)]

/-- **The list has every changed module once, in order from the start, exactly when the start is
zero or has a point, or nothing has changed.** -/
theorem listsChanges_iff (addressed : Addressed table.layout) (startModuleAddress : Nat) :
    table.ListsChanges startModuleAddress
        (table.buildListOfModuleAddressesWithChanges startModuleAddress) ↔
      table.StartKnown startModuleAddress := by
  by_cases zero : startModuleAddress = 0
  · subst zero
    exact iff_of_true (listsChanges_zero addressed) (.inl rfl)
  by_cases present : ∃ key ∈ table.layout.keys, key.moduleAddress = startModuleAddress
  · obtain ⟨start, member, rfl⟩ := present
    exact iff_of_true (listsChanges_present addressed member) (.inr (.inl ⟨start, member, rfl⟩))
  have absent := buildList_absent zero fun key member same => present ⟨key, member, same⟩
  rw [absent, StartKnown, or_iff_right zero, or_iff_right present]
  constructor
  · rintro ⟨fromStart, below, isList, -, -, fromMembers, belowMembers⟩ key member
    obtain ⟨rfl, rfl⟩ := List.append_eq_nil_iff.mp isList.symm
    by_contra changed
    have isChanged : table.ModuleChanged key.moduleAddress :=
      ⟨key, member, Bool.eq_true_of_not_eq_false changed, rfl⟩
    rcases Nat.lt_or_ge key.moduleAddress startModuleAddress with lower | upper
    · exact List.not_mem_nil ((belowMembers _).mpr ⟨isChanged, lower⟩)
    · exact List.not_mem_nil ((fromMembers _).mpr ⟨isChanged, upper⟩)
  · intro unchanged
    have noModule : ∀ moduleAddress, ¬ table.ModuleChanged moduleAddress := by
      rintro moduleAddress ⟨key, member, changed, -⟩
      rw [unchanged key member] at changed
      cases changed
    exact ⟨[], [], rfl, .nil, .nil, fun moduleAddress => by simp [noModule],
      fun moduleAddress => by simp [noModule]⟩

end BinaryTable

/-! ## The scan -/

def DIGITAL_CHANGE_OF_STATE : Nat := 10

/-- The header of the scan, and of the answer with data. -/
def MD3BlockFn10 (stationAddress : Nat) (mastertostation : Bool) (moduleaddress modulecount : Nat) :
    MD3BlockData :=
  formattedBytes mastertostation stationAddress DIGITAL_CHANGE_OF_STATE
    (BitVec.ofNat 8 moduleaddress) (BitVec.ofNat 8 (modulecount &&& 0x0F))

/-- The block of a module with the address of the station. -/
def stationBlock (stationAddress moduleAddress : Nat) (wordres : BitVec 16) : MD3BlockData :=
  words (BitVec.ofNat 16 stationAddress <<< 8 ||| BitVec.ofNat 16 moduleAddress) wordres

/-- The blocks of the modules, up to a number of them, in the format without events. -/
def BinaryTable.buildStationReturnBlocksFromList (table : BinaryTable) (moduleList : List Nat)
    (maxNumberOfDataBlocks stationAddress : Nat) : BinaryTable × MD3Message :=
  (moduleList.take maxNumberOfDataBlocks).foldl (fun state moduleAddress =>
    let read := state.1.collectModuleBitsIntoWordandResetChangeFlags moduleAddress
    (read.1, state.2 ++ [stationBlock stationAddress moduleAddress read.2])) (table, [])

theorem BinaryTable.buildStationReturnBlocks_eq (table : BinaryTable) (moduleList : List Nat)
    (maxNumberOfDataBlocks stationAddress : Nat) :
    table.buildStationReturnBlocksFromList moduleList maxNumberOfDataBlocks stationAddress =
      (table.clearModules (moduleList.take maxNumberOfDataBlocks),
        (moduleList.take maxNumberOfDataBlocks).map fun moduleAddress =>
          stationBlock stationAddress moduleAddress
            (table.collectModuleBitsIntoWord moduleAddress)) :=
  foldl_collect _ table (stationBlock stationAddress) rfl (fun _ => rfl) []

namespace DigitalOutstation

/-- Function 10. -/
def doDigitalCOSScan (outstation : DigitalOutstation) (header : MD3BlockData) :
    DigitalOutstation × MD3Message :=
  if outstation.table.countBinaryBlocksWithChanges = 0 then
    (outstation, [(formattedBytes false header.getStationAddress DIGITAL_NO_CHANGE_REPLY
      (BitVec.ofNat 8 header.getModuleAddress) 0#8).setFlags outstation.flags.RSF
        outstation.flags.HRP outstation.flags.DCP])
  else
    let formattedBlock := MD3BlockFn10 header.getStationAddress false header.getModuleAddress 0
    let moduleList := outstation.table.buildListOfModuleAddressesWithChanges header.getModuleAddress
    let read := outstation.table.buildStationReturnBlocksFromList moduleList header.getModuleCount
      header.getStationAddress
    let answering := { outstation with table := read.1 }
    let flags := answering.flags
    (answering, ((formattedBlock.setFlags flags.RSF flags.HRP flags.DCP).setModuleCount
      read.2.length) :: read.2)

variable {outstation : DigitalOutstation} {header : MD3BlockData}

/-- If there are changes and some are asked for, the answer has the words of changed modules, each
once. -/
def ReportsChanges (outstation : DigitalOutstation) (header : MD3BlockData) : Prop :=
  outstation.table.countBinaryBlocksWithChanges ≠ 0 → header.getModuleCount ≠ 0 →
    ∃ modules, modules ≠ [] ∧ modules.Nodup ∧
      (∀ moduleAddress ∈ modules, outstation.table.ModuleChanged moduleAddress) ∧
      (outstation.doDigitalCOSScan header).2.tail = modules.map fun moduleAddress =>
        stationBlock header.getStationAddress moduleAddress
          (outstation.table.collectModuleBitsIntoWord moduleAddress)

/-- The blocks of an answer are those of the first listed modules. -/
theorem doDigitalCOSScan_tail (changes : outstation.table.countBinaryBlocksWithChanges ≠ 0) :
    (outstation.doDigitalCOSScan header).2.tail =
      ((outstation.table.buildListOfModuleAddressesWithChanges header.getModuleAddress).take
        header.getModuleCount).map fun moduleAddress =>
          stationBlock header.getStationAddress moduleAddress
            (outstation.table.collectModuleBitsIntoWord moduleAddress) := by
  rw [doDigitalCOSScan, if_neg changes]
  exact congrArg Prod.snd (BinaryTable.buildStationReturnBlocks_eq ..)

/-- A full list is reported from. -/
theorem reportsChanges_of_lists (addressed : BinaryTable.Addressed outstation.table.layout)
    (lists : outstation.table.ListsChanges header.getModuleAddress
      (outstation.table.buildListOfModuleAddressesWithChanges header.getModuleAddress)) :
    outstation.ReportsChanges header := by
  intro changes requested
  obtain ⟨fromStart, below, isList, fromSorted, belowSorted, fromMembers, belowMembers⟩ := lists
  have members : ∀ moduleAddress, moduleAddress ∈ fromStart ++ below ↔
      outstation.table.ModuleChanged moduleAddress := by
    intro moduleAddress
    rw [List.mem_append, fromMembers, belowMembers, ← and_or_left]
    exact and_iff_left (Nat.lt_or_ge moduleAddress header.getModuleAddress).symm
  have nodup : (fromStart ++ below).Nodup := by
    refine List.nodup_append.mpr ⟨fromSorted.imp Nat.ne_of_lt, belowSorted.imp Nat.ne_of_lt, ?_⟩
    intro first isFrom second isBelow
    have upper := ((fromMembers first).mp isFrom).2
    have lower := ((belowMembers second).mp isBelow).2
    omega
  rw [← isList] at members nodup
  refine ⟨_, ?_, nodup.sublist (List.take_sublist _ _), fun moduleAddress member =>
    (members moduleAddress).mp (List.mem_of_mem_take member), doDigitalCOSScan_tail changes⟩
  intro none
  rcases List.take_eq_nil_iff.mp none with zero | empty
  · exact requested zero
  · refine changes ((BinaryTable.countBinaryBlocksWithChanges_eq_zero addressed).mpr ?_)
    intro key member
    by_contra changed
    have listed := (members key.moduleAddress).mpr
      ⟨key, member, Bool.eq_true_of_not_eq_false changed, rfl⟩
    rw [empty] at listed
    exact List.not_mem_nil listed

/-- **The modules are listed from the start on and reported exactly when the start is zero or
has a point, or nothing has changed.** -/
theorem cosScan_iff (addressed : BinaryTable.Addressed outstation.table.layout)
    (header : MD3BlockData) :
    (outstation.table.ListsChanges header.getModuleAddress
        (outstation.table.buildListOfModuleAddressesWithChanges header.getModuleAddress) ∧
      outstation.ReportsChanges header) ↔
    outstation.table.StartKnown header.getModuleAddress := by
  rw [← BinaryTable.listsChanges_iff addressed]
  exact and_iff_left_of_imp (reportsChanges_of_lists addressed)

/-- A point of module 34 that has changed. -/
def changedOutstation : DigitalOutstation where
  table := { layout := processBinaryPoints [{ start := 0, stop := 0, module := 0x22 }] {} }

theorem cosScan_iff_zero :
    BinaryTable.Addressed changedOutstation.table.layout ∧
      ((changedOutstation.table.ListsChanges (MD3BlockFn10 0x7C true 0 2).getModuleAddress
          (changedOutstation.table.buildListOfModuleAddressesWithChanges
            (MD3BlockFn10 0x7C true 0 2).getModuleAddress) ∧
        changedOutstation.ReportsChanges (MD3BlockFn10 0x7C true 0 2)) ↔
      changedOutstation.table.StartKnown (MD3BlockFn10 0x7C true 0 2).getModuleAddress) := by
  have addressed : BinaryTable.Addressed changedOutstation.table.layout := by
    unfold BinaryTable.Addressed
    decide +kernel
  exact ⟨addressed, cosScan_iff addressed (MD3BlockFn10 0x7C true 0 2)⟩

/-- **From module 33 on, which has no point, no module is listed, and the answer has no block.** -/
theorem cosScan_absent :
    (MD3BlockFn10 0x7C true 0x21 2).getModuleAddress = 0x21 ∧
      (MD3BlockFn10 0x7C true 0x21 2).getModuleCount = 2 ∧
      changedOutstation.table.countBinaryBlocksWithChanges = 1 ∧
      changedOutstation.table.buildListOfModuleAddressesWithChanges 0x21 = [] ∧
      (changedOutstation.doDigitalCOSScan (MD3BlockFn10 0x7C true 0x21 2)).2.tail = [] ∧
      ¬ (changedOutstation.table.ListsChanges 0x21
          (changedOutstation.table.buildListOfModuleAddressesWithChanges 0x21) ∧
        changedOutstation.ReportsChanges (MD3BlockFn10 0x7C true 0x21 2)) := by
  have noBlock : (changedOutstation.doDigitalCOSScan (MD3BlockFn10 0x7C true 0x21 2)).2.tail = [] := by
    decide +kernel
  refine ⟨by decide +kernel, by decide +kernel, by decide +kernel, by decide +kernel, noBlock, ?_⟩
  rintro ⟨-, reports⟩
  obtain ⟨modules, some_, -, -, blocks⟩ := reports (by decide +kernel) (by decide +kernel)
  rw [noBlock] at blocks
  exact some_ (List.map_eq_nil_iff.mp blocks.symm)

end DigitalOutstation

end OpenDataCon.MD3Port
