import OpenDataCon.CBPort.MasterScan
import OpenDataCon.CBPort.OutstationRequests

/-!
# The words of a scan

The answer to a scan has one word for each place of the group, up to the last
packet in use. Reading the points of a place clears change marks and nothing
else, so every word is made from the values at the time of the scan
(`wordAt_buildScanRequestResponseData`). The flags of the system are told at the
place of the status byte, which is read once.

The master finds each word at its place (`scanSections_scanResponse`).
-/

set_option autoImplicit false

namespace OpenDataCon.CBPort

open Runs PointTable MasterScan

namespace CBOutstation

/-! ## The sections of an answer -/

/-- The places of some packets. -/
def packetLocations (first packets : Nat) : List PayloadLocationType :=
  (List.range packets).flatMap fun i => [⟨i + first, .PositionA⟩, ⟨i + first, .PositionB⟩]

theorem packetLocations_succ (first packets : Nat) :
    packetLocations first (packets + 1) =
      ⟨first, .PositionA⟩ :: ⟨first, .PositionB⟩ :: packetLocations (first + 1) packets := by
  simp only [packetLocations, List.range_succ_eq_map, List.flatMap_cons, List.flatMap_map,
    Nat.zero_add, List.cons_append, List.nil_append, Nat.succ_eq_add_one]
  congr 3
  funext i
  rw [Nat.add_assoc, Nat.add_comm 1 first]

theorem length_packetLocations (first packets : Nat) :
    (packetLocations first packets).length = 2 * packets := by
  simp [packetLocations, Nat.mul_comm]

theorem mem_packetLocations {first packets : Nat} {payloadLocation : PayloadLocationType} :
    payloadLocation ∈ packetLocations first packets ↔
      payloadLocation.position ≠ .Error ∧ first ≤ payloadLocation.packet ∧
        payloadLocation.packet < first + packets := by
  obtain ⟨packet, position⟩ := payloadLocation
  simp only [packetLocations, List.mem_flatMap, List.mem_range, List.mem_cons, List.not_mem_nil,
    or_false, PayloadLocationType.mk.injEq]
  constructor
  · rintro ⟨i, small, ⟨rfl, rfl⟩ | ⟨rfl, rfl⟩⟩ <;> exact ⟨by decide, by omega, by omega⟩
  · rintro ⟨known, low, high⟩
    refine ⟨packet - first, by omega, ?_⟩
    cases position with
    | PositionA => exact .inl ⟨by omega, rfl⟩
    | PositionB => exact .inr ⟨by omega, rfl⟩
    | Error => exact absurd rfl known

theorem nodup_packetLocations (first packets : Nat) : (packetLocations first packets).Nodup := by
  induction packets generalizing first with
  | zero => exact List.nodup_nil
  | succ packets ih =>
      rw [packetLocations_succ, List.nodup_cons, List.nodup_cons]
      refine ⟨?_, ?_, ih (first + 1)⟩
      · simp [mem_packetLocations]
      · simp [mem_packetLocations]

theorem scanLocations_eq (maxBlockNum : Nat) :
    scanLocations maxBlockNum =
      ⟨1, .PositionB⟩ :: packetLocations 2 (maxBlockNum - 1) := rfl

theorem nodup_scanLocations (maxBlockNum : Nat) : (scanLocations maxBlockNum).Nodup := by
  rw [scanLocations_eq, List.nodup_cons]
  exact ⟨by simp [mem_packetLocations], nodup_packetLocations 2 _⟩

/-- A scan has the places up to the last packet. -/
theorem mem_scanLocations {maxBlockNum : Nat} {payloadLocation : PayloadLocationType}
    (inScan : payloadLocation.InScan) (covered : payloadLocation.packet ≤ maxBlockNum) :
    payloadLocation ∈ scanLocations maxBlockNum := by
  rw [scanLocations_eq, List.mem_cons, mem_packetLocations]
  obtain ⟨⟨first, last, known⟩, notHeader⟩ := inScan
  obtain ⟨packet, position⟩ := payloadLocation
  simp only [PayloadLocationType.mk.injEq] at first last known notHeader covered ⊢
  cases position with
  | PositionA =>
      right
      exact ⟨by decide, by simp at notHeader; omega, by omega⟩
  | PositionB =>
      by_cases one : packet = 1
      · exact .inl ⟨one, rfl⟩
      · exact .inr ⟨by decide, by omega, by omega⟩
  | Error => exact absurd rfl known

theorem scanLocations_inScan {maxBlockNum : Nat} (onWire : maxBlockNum ≤ 16)
    {payloadLocation : PayloadLocationType}
    (member : payloadLocation ∈ scanLocations maxBlockNum) : payloadLocation.InScan := by
  rw [scanLocations_eq, List.mem_cons, mem_packetLocations] at member
  rcases member with rfl | ⟨known, low, high⟩
  · exact ⟨⟨by decide, by decide, by decide⟩, by decide⟩
  · refine ⟨⟨by omega, by omega, known⟩, ?_⟩
    rintro rfl
    simp at low

theorem blockSections_scanBlocks (words : List (BitVec 16)) (first packets : Nat)
    (full : words.length = 2 * packets) :
    blockSections first (scanBlocks words) =
      (packetLocations first packets).zip (words.map (· &&& 0xFFF#16)) := by
  induction packets generalizing first words with
  | zero =>
      obtain rfl := List.length_eq_zero_iff.mp full
      rfl
  | succ packets ih =>
      match words, full with
      | A :: B :: rest, full =>
          have shorter : rest.length = 2 * packets := by
            simp only [List.length_cons] at full
            omega
          rw [scanBlocks, blockSections, CBBlockData.getA_dataBlock, CBBlockData.getB_dataBlock,
            ih rest _ shorter, packetLocations_succ]
          rfl

/-- **The master finds each word of the outstation at its place.** -/
theorem scanSections_scanResponse (header : CBBlockData) (words : List (BitVec 16))
    {maxBlockNum : Nat} (full : words.length = (scanLocations maxBlockNum).length) :
    scanSections (scanResponse header words) =
      (scanLocations maxBlockNum).zip (words.map (· &&& 0xFFF#16)) := by
  rw [scanLocations_eq, List.length_cons, length_packetLocations] at full
  match words, full with
  | first :: rest, full =>
      have blocks := blockSections_scanBlocks rest 2 (maxBlockNum - 1)
        (by simpa using full)
      simp only [scanResponse, scanSections, List.headD_cons, List.tail_cons, blocks,
        CBBlockData.getB_addressBlock, scanLocations_eq, List.map_cons, List.zip_cons_cons]

/-! ## Readings -/

/-- The change marks of a binary point, cleared. -/
def unmark (point : CBBinaryPoint) : CBBinaryPoint :=
  { point with
    changed := false
    momentaryChangeStatus := false }

/-- The tables have the same values; change marks may differ. -/
structure SameReadings (start here : PointTable) : Prop where
  analog : here.analog = start.analog
  counter : here.counter = start.counter
  binary : SameKind unmark start.binary here.binary
  statusByteGroup : here.statusByteGroup = start.statusByteGroup
  statusBytePlace : here.statusBytePayloadLocation = start.statusBytePayloadLocation

theorem SameReadings.refl (table : PointTable) : SameReadings table table :=
  ⟨rfl, rfl, ⟨rfl, fun _ => rfl⟩, rfl, rfl⟩

theorem unmark_binaryPayload (isBakerDevice : Bool) (point : CBBinaryPoint) :
    unmark (binaryPayload isBakerDevice point).1 = unmark point := by
  unfold binaryPayload
  cases point.pointType <;> rfl

/-- Reading a binary point changes its marks, and nothing else of the table. -/
theorem readBinaryPoint_same (isBakerDevice : Bool) {start : PointTable}
    {state : PointTable × BitVec 16} (same : SameReadings start state.1) (index : Nat) :
    SameReadings start (readBinaryPoint isBakerDevice state index).1 ∧
      (readBinaryPoint isBakerDevice state index).1.soe = state.1.soe :=
  ⟨{ same with binary := same.binary.modify index (unmark_binaryPayload isBakerDevice) }, rfl⟩

theorem readPoints_same (isBakerDevice : Bool) {start table : PointTable}
    (same : SameReadings start table) (group : Nat) (payloadLocation : PayloadLocationType) :
    SameReadings start (readPoints isBakerDevice table group payloadLocation).1 ∧
      (readPoints isBakerDevice table group payloadLocation).1.soe = table.soe := by
  have folded (indexes : List Nat) (state : PointTable × BitVec 16)
      (same : SameReadings start state.1) :
      SameReadings start (indexes.foldl (readBinaryPoint isBakerDevice) state).1 ∧
        (indexes.foldl (readBinaryPoint isBakerDevice) state).1.soe = state.1.soe := by
    induction indexes generalizing state with
    | nil => exact ⟨same, rfl⟩
    | cons index rest ih =>
        obtain ⟨next, kept⟩ := readBinaryPoint_same isBakerDevice same index
        obtain ⟨last, keptToo⟩ := ih _ next
        exact ⟨last, keptToo.trans kept⟩
  simp only [readPoints]
  split
  · exact ⟨same, rfl⟩
  · split
    · exact ⟨same, rfl⟩
    · exact folded _ (table, 0#16) same

/-! ## The status byte -/

/-- The bits that the flags replace. -/
def statusBits : List Nat := [0, 1, 6, 7]

/-- The flag at a bit of the status byte. -/
def statusFlag (outstation : CBOutstation) (bit : Nat) : Bool :=
  if bit = 0 then outstation.pointTable.soe.timeTaggedDataAvailable
  else if bit = 1 then outstation.pointTable.soe.soeBufferOverflowFlag
  else if bit = 6 then outstation.systemFlags.startUp
  else outstation.systemFlags.controlIsolate

theorem getLsbD_setFlag (flag : Bool) (payload mask : BitVec 16) (i : Nat) :
    (if flag then payload ||| mask else payload).getLsbD i =
      (payload.getLsbD i || (flag && mask.getLsbD i)) := by
  cases flag <;> simp

theorem getLsbD_oneShift (bit : Nat) (inWord : bit < 16) (i : Nat) :
    (1#16 <<< bit).getLsbD i = decide (i = bit) := by
  rw [← BitVec.twoPow_eq, BitVec.getLsbD_twoPow]
  simp only [inWord, decide_true, Bool.true_and, eq_comm]

theorem getLsbD_statusMask (i : Nat) : (0x0C3#16).getLsbD i = decide (i ∈ statusBits) := by
  by_cases small : i < 16
  · interval_cases i <;> rfl
  · rw [BitVec.getLsbD_of_ge _ _ (by omega)]
    have outside : i ∉ statusBits := by
      simp only [statusBits, List.mem_cons, List.not_mem_nil, or_false]
      omega
    exact (decide_eq_false outside).symm

/-- **The status word**: the flags at their bits, the payload elsewhere. -/
theorem getLsbD_getStatusPayload (outstation : CBOutstation) (payload : BitVec 16) {i : Nat}
    (inWord : i < 16) :
    (outstation.getStatusPayload payload).2.getLsbD i =
      if i ∈ statusBits then statusFlag outstation i else payload.getLsbD i := by
  simp only [getStatusPayload, getLsbD_setFlag, getLsbD_oneShift 7 (by decide),
    getLsbD_oneShift 6 (by decide), getLsbD_oneShift 1 (by decide),
    BitVec.getLsbD_one, BitVec.getLsbD_and, BitVec.getLsbD_not, getLsbD_statusMask]
  by_cases status : i ∈ statusBits
  · rw [if_pos status]
    simp only [statusBits, List.mem_cons, List.not_mem_nil, or_false] at status
    rcases status with rfl | rfl | rfl | rfl <;> simp [statusFlag, statusBits]
  · rw [if_neg status]
    simp only [statusBits, List.mem_cons, List.not_mem_nil, or_false, not_or] at status
    simp [status, inWord, statusBits]

/-! ## The bits of binary points -/

/-- The bit of the value of a binary point. -/
def valueBit (isBakerDevice : Bool) (point : CBBinaryPoint) : Nat :=
  if isDualBit point.pointType then (momentaryShifts isBakerDevice point.channel).1
  else digitalShift isBakerDevice point.channel

/-- The value as it is on the wire: inverted for one type. -/
def wireValue (point : CBBinaryPoint) : Bool :=
  if point.pointType = .MCA then !point.binary else point.binary

/-- The bits of the word that a point may set. -/
def ownBits (isBakerDevice : Bool) (point : CBBinaryPoint) : List Nat :=
  if isDualBit point.pointType then
    [(momentaryShifts isBakerDevice point.channel).1,
      (momentaryShifts isBakerDevice point.channel).2]
  else [digitalShift isBakerDevice point.channel]

/-- The place in the word of a bit that counts from 1. -/
def wireBit (isBakerDevice : Bool) (bit : Nat) : Nat := if isBakerDevice then bit - 1 else 12 - bit

/-- A type of a binary input with its channels. -/
def InputChannel (pointType : BinaryPointType) (channel : Nat) : Prop :=
  (pointType = .DIG ∧ 1 ≤ channel ∧ channel ≤ 12) ∨
    (isDualBit pointType = true ∧ 1 ≤ channel ∧ channel ≤ 6)

section Bits

variable {isBakerDevice : Bool} {point : CBBinaryPoint}

/-- The taken bits count from 1 to 12. -/
theorem takenBits_small {pointType : BinaryPointType} {channel : Nat}
    (input : InputChannel pointType channel) :
    ∀ bit ∈ takenBits pointType channel, 1 ≤ bit ∧ bit ≤ 12 := by
  intro bit member
  rcases input with ⟨rfl, low, high⟩ | ⟨dual, low, high⟩
  · simp only [takenBits, firstBit, isDualBit] at member
    simp at member
    omega
  · simp only [takenBits, firstBit, dual, if_true, List.mem_cons, List.not_mem_nil, or_false]
      at member
    omega

/-- The bits of a point in the word are those that the table has taken for it. -/
theorem ownBits_eq (input : InputChannel point.pointType point.channel) {bit : Nat} :
    bit ∈ ownBits isBakerDevice point ↔
      ∃ taken ∈ takenBits point.pointType point.channel, bit = wireBit isBakerDevice taken := by
  rcases input with ⟨digital, low, high⟩ | ⟨dual, low, high⟩
  · simp [ownBits, takenBits, firstBit, isDualBit, digital, wireBit, digitalShift]
  · simp only [ownBits, takenBits, firstBit, dual, if_true, momentaryShifts, wireBit,
      List.mem_cons, List.not_mem_nil, or_false, exists_eq_or_imp, exists_eq_left]
    cases isBakerDevice <;> simp <;> omega

theorem valueBit_mem (isBakerDevice : Bool) (point : CBBinaryPoint) :
    valueBit isBakerDevice point ∈ ownBits isBakerDevice point := by
  unfold valueBit ownBits
  split <;> simp

theorem wireBit_inj {first second : Nat} (low : 1 ≤ first) (high : first ≤ 12)
    (low' : 1 ≤ second) (high' : second ≤ 12)
    (same : wireBit isBakerDevice first = wireBit isBakerDevice second) : first = second := by
  unfold wireBit at same
  split at same <;> omega

/-- Points that share no bit in the table share none in the word. -/
theorem valueBit_apart {other : CBBinaryPoint} (input : InputChannel point.pointType point.channel)
    (input' : InputChannel other.pointType other.channel)
    (apart : ∀ bit ∈ takenBits point.pointType point.channel,
      bit ∉ takenBits other.pointType other.channel) :
    valueBit isBakerDevice point ∉ ownBits isBakerDevice other := by
  intro shared
  obtain ⟨taken, mine, here⟩ := (ownBits_eq input).mp (valueBit_mem isBakerDevice point)
  obtain ⟨taken', theirs, there⟩ := (ownBits_eq input').mp shared
  obtain ⟨low, high⟩ := takenBits_small input taken mine
  obtain ⟨low', high'⟩ := takenBits_small input' taken' theirs
  obtain rfl := wireBit_inj low high low' high' (here.symm.trans there)
  exact apart taken mine theirs

theorem valueBit_lt (isBakerDevice : Bool) (input : InputChannel point.pointType point.channel) :
    valueBit isBakerDevice point < 12 := by
  obtain ⟨taken, mine, here⟩ := (ownBits_eq input).mp (valueBit_mem isBakerDevice point)
  obtain ⟨low, high⟩ := takenBits_small input taken mine
  rw [here, wireBit]
  split <;> omega

theorem getLsbD_optionalBit (flag : Bool) {shift : Nat} (inWord : shift < 16) (i : Nat) :
    (if flag then 1#16 <<< shift else 0#16).getLsbD i = (flag && decide (i = shift)) := by
  cases flag with
  | false => simp
  | true =>
      rw [if_pos rfl, getLsbD_oneShift _ inWord, Bool.true_and]

/-- The word of a momentary contact. -/
theorem binaryPayload_momentary (dual : isDualBit point.pointType = true) :
    (binaryPayload isBakerDevice point).2 =
      ((if wireValue point then 1#16 <<< (momentaryShifts isBakerDevice point.channel).1 else 0#16)
        ||| if point.momentaryChangeStatus then
          1#16 <<< (momentaryShifts isBakerDevice point.channel).2 else 0#16) := by
  cases type : point.pointType with
  | DIG => simp [isDualBit, type] at dual
  | BINCONTROL => simp [isDualBit, type] at dual
  | MCA | MCB | MCC =>
      simp [binaryPayload, type, wireValue, CBBinaryPoint.getBinaryAndMCFlagWithFlagReset]

/-- **A point sets its value bit by its value**, and no bit that is not its own. -/
theorem getLsbD_binaryPayload (isBakerDevice : Bool) (input : InputChannel point.pointType point.channel) :
    (binaryPayload isBakerDevice point).2.getLsbD (valueBit isBakerDevice point) =
        wireValue point ∧
      ∀ bit, bit ∉ ownBits isBakerDevice point →
        (binaryPayload isBakerDevice point).2.getLsbD bit = false := by
  rcases input with ⟨digital, low, high⟩ | ⟨dual, low, high⟩
  · have inWord : digitalShift isBakerDevice point.channel < 16 := by
      unfold digitalShift
      split <;> omega
    have word : (binaryPayload isBakerDevice point).2 =
        if wireValue point then 1#16 <<< digitalShift isBakerDevice point.channel else 0#16 := by
      simp [binaryPayload, digital, wireValue]
    rw [word]
    refine ⟨?_, fun bit outside => ?_⟩
    · rw [getLsbD_optionalBit _ inWord]
      simp [valueBit, digital, isDualBit]
    · rw [getLsbD_optionalBit _ inWord]
      simp only [ownBits, digital, isDualBit] at outside
      simp at outside
      simp [outside]
  · obtain ⟨inWord, inWord', distinct⟩ :
        (momentaryShifts isBakerDevice point.channel).1 < 16 ∧
          (momentaryShifts isBakerDevice point.channel).2 < 16 ∧
          (momentaryShifts isBakerDevice point.channel).1 ≠
            (momentaryShifts isBakerDevice point.channel).2 := by
      unfold momentaryShifts
      split <;> simp <;> omega
    rw [binaryPayload_momentary dual]
    refine ⟨?_, fun bit outside => ?_⟩
    · rw [BitVec.getLsbD_or, getLsbD_optionalBit _ inWord, getLsbD_optionalBit _ inWord']
      simp [valueBit, dual, distinct]
    · simp only [ownBits, dual, if_true, List.mem_cons, List.not_mem_nil, or_false, not_or]
        at outside
      rw [BitVec.getLsbD_or, getLsbD_optionalBit _ inWord, getLsbD_optionalBit _ inWord']
      simp [outside]

/-- A point with other change marks. -/
theorem unmark_eq {other : CBBinaryPoint} (same : unmark other = unmark point) :
    other.pointType = point.pointType ∧ other.channel = point.channel ∧
      other.binary = point.binary := by
  simp only [unmark, CBBinaryPoint.mk.injEq] at same
  simp [same]

/-- **The word of some binary points** has the value of each at its bit. -/
theorem getLsbD_foldl_readBinaryPoint {start : PointTable} {index : Nat}
    (there : start.binary.odcPointMap index = some point) (indexes : List Nat)
    (points : ∀ other ∈ indexes, ∃ found, start.binary.odcPointMap other = some found ∧
      InputChannel found.pointType found.channel ∧
      (other ≠ index → valueBit isBakerDevice point ∉ ownBits isBakerDevice found))
    {state : PointTable × BitVec 16} (same : SameReadings start state.1) :
    (indexes.foldl (readBinaryPoint isBakerDevice) state).2.getLsbD
        (valueBit isBakerDevice point) =
      (state.2.getLsbD (valueBit isBakerDevice point) ||
        (decide (index ∈ indexes) && wireValue point)) := by
  induction indexes generalizing state with
  | nil => simp
  | cons other rest ih =>
      obtain ⟨found, before, inputFound, apart⟩ := points other List.mem_cons_self
      have next := (readBinaryPoint_same isBakerDevice same other).1
      rw [List.foldl_cons, ih (fun later member => points later (List.mem_cons_of_mem _ member))
        next]
      obtain ⟨now, held, marks⟩ := same.binary.symm.counterpart before
      obtain ⟨type, channel, value⟩ := unmark_eq marks
      have inputNow : InputChannel now.pointType now.channel := by
        rw [type, channel]
        exact inputFound
      have bits : ownBits isBakerDevice now = ownBits isBakerDevice found := by
        simp only [ownBits, type, channel]
      have word : (readBinaryPoint isBakerDevice state other).2 =
          (state.2 ||| (binaryPayload isBakerDevice now).2) := by
        simp only [readBinaryPoint, held, Option.getD_some]
      rw [word, BitVec.getLsbD_or]
      simp only [List.mem_cons]
      obtain ⟨own, others⟩ := getLsbD_binaryPayload isBakerDevice inputNow
      by_cases here : other = index
      · subst here
        rw [there] at before
        cases before
        have same : valueBit isBakerDevice now = valueBit isBakerDevice point := by
          simp only [valueBit, type, channel]
        have wire : wireValue now = wireValue point := by simp only [wireValue, type, value]
        rw [← same, own, wire]
        simp only [true_or, decide_true, Bool.true_and]
        cases wireValue point <;> simp
      · rw [others _ (bits ▸ apart here), Bool.or_false]
        have elsewhere : ¬ index = other := fun same => here same.symm
        simp only [elsewhere, false_or]

end Bits

/-! ## The word of a place -/

/-- The word that a scan has at a place: made from the values of the points, with
the flags at the place of the status byte. -/
def WordAt (conf : CBOutstationConf) (outstation : CBOutstation) (group : Nat)
    (payloadLocation : PayloadLocationType) (word : BitVec 16) : Prop :=
  ∃ table, SameReadings outstation.pointTable table ∧ ∀ i < 16,
    word.getLsbD i =
      if outstation.pointTable.isStatusByteLocation group payloadLocation ∧ i ∈ statusBits then
        statusFlag outstation i
      else (readPoints conf.isBakerDevice table group payloadLocation).2.getLsbD i

theorem SameReadings.isStatusByteLocation {start here : PointTable}
    (same : SameReadings start here) (group : Nat) (payloadLocation : PayloadLocationType) :
    here.isStatusByteLocation group payloadLocation =
      start.isStatusByteLocation group payloadLocation := by
  simp only [PointTable.isStatusByteLocation, same.statusByteGroup, same.statusBytePlace]

/-- What a scan does not change on the way: the values, and before the place of
the status byte also the flags. -/
def Flags (outstation : CBOutstation) : OutstationSystemFlags × SOEQueue :=
  (outstation.systemFlags, outstation.pointTable.soe)

theorem getPayload_same {conf : CBOutstationConf} {start : PointTable} {here : CBOutstation}
    (same : SameReadings start here.pointTable) (group : Nat)
    (payloadLocation : PayloadLocationType) :
    SameReadings start (here.getPayload conf group payloadLocation).1.pointTable ∧
      (start.isStatusByteLocation group payloadLocation = false →
        Flags (here.getPayload conf group payloadLocation).1 = Flags here) := by
  obtain ⟨read, kept⟩ := readPoints_same conf.isBakerDevice same group payloadLocation
  have status := read.isStatusByteLocation group payloadLocation
  simp only [getPayload, status]
  split
  · next here =>
      refine ⟨⟨read.analog, read.counter, read.binary, read.statusByteGroup,
        read.statusBytePlace⟩, fun elsewhere => ?_⟩
      rw [here] at elsewhere
      cases elsewhere
  · exact ⟨read, fun _ => by simp only [Flags, kept]⟩

theorem statusFlag_congr {first second : CBOutstation} (same : Flags first = Flags second)
    (bit : Nat) : statusFlag first bit = statusFlag second bit := by
  obtain ⟨flags, soe⟩ := Prod.mk.inj same
  simp only [statusFlag, flags, soe]

/-- The word at a place, from the state in which it is read. -/
theorem wordAt_getPayload {conf : CBOutstationConf} {outstation here : CBOutstation}
    (same : SameReadings outstation.pointTable here.pointTable) {group : Nat}
    {payloadLocation : PayloadLocationType}
    (flags : outstation.pointTable.isStatusByteLocation group payloadLocation = true →
      Flags here = Flags outstation) :
    WordAt conf outstation group payloadLocation
      (here.getPayload conf group payloadLocation).2 := by
  refine ⟨here.pointTable, same, fun i inWord => ?_⟩
  obtain ⟨read, kept⟩ := readPoints_same conf.isBakerDevice same group payloadLocation
  have status := read.isStatusByteLocation group payloadLocation
  simp only [getPayload, status]
  cases place : outstation.pointTable.isStatusByteLocation group payloadLocation with
  | false => simp
  | true =>
      have told : Flags
          { here with
            pointTable :=
              (readPoints conf.isBakerDevice here.pointTable group payloadLocation).1 } =
          Flags outstation := by
        rw [← flags place]
        simp only [Flags, kept]
      rw [if_pos rfl, getLsbD_getStatusPayload _ _ inWord, statusFlag_congr told]
      simp

/-- One output for each input: each input stands beside its output. -/
theorem mem_zip_run {σ ι ο : Type*} (step : σ → ι → σ × List ο) (output : σ → ι → ο)
    (puts : ∀ state input, (step state input).2 = [output state input]) (state : σ)
    (before : List ι) (input : ι) (after : List ι) :
    (input, output (run step state before).1 input) ∈
      (before ++ input :: after).zip (run step state (before ++ input :: after)).2 := by
  induction before generalizing state with
  | nil => simp [run_cons, puts]
  | cons first rest ih =>
      rw [List.cons_append, run_cons, run_cons, puts, List.singleton_append, List.zip_cons_cons]
      exact List.mem_cons_of_mem _ (ih _)

theorem length_run {σ ι ο : Type*} {step : σ → ι → σ × List ο}
    (puts : ∀ state input, (step state input).2.length = 1) (state : σ) (inputs : List ι) :
    (run step state inputs).2.length = inputs.length := by
  induction inputs generalizing state with
  | nil => rfl
  | cons input rest ih =>
      rw [run_cons, List.length_append, puts, ih, List.length_cons, Nat.add_comm]

/-- The packets of a scan of the group. -/
def scannedPackets (table : PointTable) (group : Nat) : Nat := (table.getMaxPayload group).getD 1

/-- **Every place of a scan has its word** in the answer. -/
theorem wordAt_buildScanRequestResponseData (conf : CBOutstationConf)
    (outstation : CBOutstation) (group : Nat) {payloadLocation : PayloadLocationType}
    (member : payloadLocation ∈ scanLocations (scannedPackets outstation.pointTable group)) :
    ∃ word, WordAt conf outstation group payloadLocation word ∧
      (payloadLocation, word) ∈ (scanLocations (scannedPackets outstation.pointTable group)).zip
        (outstation.buildScanRequestResponseData conf group).2 := by
  obtain ⟨before, after, split⟩ := List.append_of_mem member
  have once := nodup_scanLocations (scannedPackets outstation.pointTable group)
  rw [split, List.nodup_middle, List.nodup_cons] at once
  have values : SameReadings outstation.pointTable
      (run (readPlace conf group) outstation before).1.pointTable :=
    run_invariant (fun here : CBOutstation => SameReadings outstation.pointTable here.pointTable)
      (fun here place same => (getPayload_same same group place).1)
      (SameReadings.refl outstation.pointTable) before
  refine ⟨_, wordAt_getPayload values fun status => ?_, ?_⟩
  · -- the place of the status byte does not come twice
    refine (run_silent
      (fun here : CBOutstation => SameReadings outstation.pointTable here.pointTable)
      Flags (fun _ => false) (fun place among => ?_)
      (SameReadings.refl outstation.pointTable)).2.1
    have elsewhere : outstation.pointTable.isStatusByteLocation group place = false := by
      simp only [PointTable.isStatusByteLocation, Bool.and_eq_true, beq_iff_eq] at status
      simp only [PointTable.isStatusByteLocation, Bool.and_eq_false_iff, beq_eq_false_iff_ne]
      refine .inr fun same => once.1 ?_
      rw [← status.2, same]
      exact List.mem_append_left _ among
    exact ⟨fun here same => (getPayload_same same group place).1,
      fun here same => (getPayload_same same group place).2 elsewhere, fun here _ => by simp⟩
  · have pairs := mem_zip_run (readPlace conf group)
      (fun here place => (here.getPayload conf group place).2) (fun _ _ => rfl)
      outstation before payloadLocation after
    rw [← split] at pairs
    exact pairs

theorem length_buildScanRequestResponseData (conf : CBOutstationConf) (outstation : CBOutstation)
    (group : Nat) :
    (outstation.buildScanRequestResponseData conf group).2.length =
      (scanLocations (scannedPackets outstation.pointTable group)).length :=
  length_run (fun _ _ => rfl) _ _

end CBOutstation

end OpenDataCon.CBPort
