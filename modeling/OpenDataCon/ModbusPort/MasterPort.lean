import OpenDataCon.Connectors.MultiCallback
import OpenDataCon.Connectors.QualityFlags
import OpenDataCon.Connectors.Transforms
import OpenDataCon.Foundations.FuelledRecursion
import OpenDataCon.Foundations.WrappedCounters
import OpenDataCon.ModbusPort.PointConf

/-!
# The Modbus master loses its connection

A poll publishes the values of the configured addresses. When the connection is given up, the
quality of the points is published as lost: one event object is given the address of one point
after the other.

The addresses are counted with 16 bits, so a range that ends with the last address is never done
with, and the event object has the type of a binary quality for registers too. `disconnect_iff` has
the configurations for which every point is marked once. What a poll publishes is about configured
points (`doPoll_configured`), so those are marked too.
-/

set_option autoImplicit false

namespace OpenDataCon.ModbusPort

open Connectors WrappedCounters

/-! ## The port -/

inductive Payload where
  | bit (value : Bool)
  | analogOutputInt16 (value : BitVec 16) (status : CommandStatus)
  | double (value : Nat)
  | quality (flags : QualityFlags)
deriving DecidableEq, Repr

structure ModbusEvent where
  type : EventType
  index : Nat
  quality : QualityFlags
  payload : Payload
deriving DecidableEq, Repr

/-- The device at the other end. A read of some addresses of a table gives their values, or fails.
It fails when more values are asked for than a message can carry, so the 16-bit counter of a loop
over the values does not wrap. -/
structure ModbusSlave where
  read (table : ModbusTable) (start count : Nat) : Option (List (BitVec 16))
  length_read : ∀ table start count values, read table start count = some values →
    values.length = count ∧ count ≤ 2000

structure ModbusMasterPort where
  conf : ModbusPointConf
  enabled : Bool := true
  stackEnabled : Bool := true

/-- The event for a value of a table. -/
def polledEvent (table : ModbusTable) (index : Nat) (value : BitVec 16) : ModbusEvent :=
  match table with
  | .bits => ⟨.BinaryOutputStatus, index, QualityFlags.ONLINE, .bit (value != 0#16)⟩
  | .inputBits => ⟨.Binary, index, QualityFlags.ONLINE, .bit (value != 0#16)⟩
  | .registers =>
    ⟨.AnalogOutputInt16, index, QualityFlags.ONLINE, .analogOutputInt16 value .SUCCESS⟩
  | .inputRegisters => ⟨.Analog, index, QualityFlags.ONLINE, .double value.toNat⟩

/-- Poll one range. Poll group 0 is for all of them. The index of an event has 16 bits. -/
def pollRange (slave : ModbusSlave) (pollgroup : Nat) (table : ModbusTable)
    (range : ModbusReadGroup) : List ModbusEvent :=
  if pollgroup ≠ 0 ∧ range.pollgroup ≠ pollgroup then []
  else
    match slave.read table range.start range.count with
    | none => []
    | some values => values.zipIdx.map fun (value, i) =>
        polledEvent table ((range.start + i) % 65536) value

/-- The event that is published for every address. -/
def commLost (index : Nat) : ModbusEvent where
  type := .BinaryQuality
  index := index
  quality := QualityFlags.COMM_LOST
  payload := .quality QualityFlags.COMM_LOST

/-- Mark the addresses of a range, in a loop with a 16-bit index. -/
def markRange (fuel : Nat) (range : ModbusReadGroup) : Option (List ModbusEvent) :=
  collectBelow 65536 range.bound commLost fuel (range.start % 65536)

def markRanges (fuel : Nat) (ranges : List ModbusReadGroup) : Option (List ModbusEvent) :=
  (ranges.mapM (markRange fuel)).map List.flatten

namespace ModbusMasterPort

/-- What a poll publishes. -/
def doPoll (port : ModbusMasterPort) (slave : ModbusSlave) (pollgroup : Nat) : List ModbusEvent :=
  if port.enabled = false then []
  else
    port.conf.bitIndicies.flatMap (pollRange slave pollgroup .bits) ++
      port.conf.inputBitIndicies.flatMap (pollRange slave pollgroup .inputBits) ++
      port.conf.regIndicies.flatMap (pollRange slave pollgroup .registers) ++
      port.conf.inputRegIndicies.flatMap (pollRange slave pollgroup .inputRegisters)

/-- Give the connection up, with fuel for each of the loops. -/
def disconnect (port : ModbusMasterPort) (fuel : Nat) :
    Option (ModbusMasterPort × List ModbusEvent) :=
  if port.stackEnabled = false then some (port, [])
  else do
    let bits ← markRanges fuel port.conf.bitIndicies
    let inputBits ← markRanges fuel port.conf.inputBitIndicies
    let registers ← markRanges fuel port.conf.regIndicies
    let inputRegisters ← markRanges fuel port.conf.inputRegIndicies
    return ({ port with stackEnabled := false }, bits ++ inputBits ++ registers ++ inputRegisters)

end ModbusMasterPort

/-! ## What is to be published -/

/-- The types that mark a point of a table. -/
def qualityTypes : ModbusTable → List EventType
  | .bits | .inputBits => [.BinaryQuality, .DoubleBitBinaryQuality, .BinaryOutputStatusQuality]
  | .registers | .inputRegisters => [.AnalogQuality, .AnalogOutputStatusQuality]

/-- An event marks a point as lost. -/
structure Marks (point : ModbusTable × Nat) (event : ModbusEvent) : Prop where
  type : event.type ∈ qualityTypes point.1
  index : event.index = point.2
  quality : event.quality = QualityFlags.COMM_LOST
  payload : event.payload = .quality QualityFlags.COMM_LOST

/-- Every configured point is marked once and nothing else is, so every point is marked that a poll
can publish. -/
structure Disconnected (port : ModbusMasterPort) (published : List ModbusEvent) : Prop where
  points : ∃ points : List (ModbusTable × Nat), points.Nodup ∧
    (∀ point, point ∈ points ↔ port.conf.Configured point.1 point.2) ∧
    List.Forall₂ Marks points published
  polled : ∀ slave pollgroup, ∀ event ∈ port.doPoll slave pollgroup, ∃ table register value,
    event = polledEvent table register value ∧ ∃ mark ∈ published, Marks (table, register) mark
  others : ∀ mark ∈ published, ∃ table, port.conf.Configured table mark.index

/-- The addresses of some ranges. -/
def addresses (ranges : List ModbusReadGroup) : List Nat :=
  ranges.flatMap fun range => List.range' range.start range.count

/-- The ports whose points are marked: they have no registers, are connected unless they have no
points at all, and no bit is the last address or configured twice. -/
structure DisconnectRight (port : ModbusMasterPort) : Prop where
  registers : port.conf.regIndicies = []
  inputRegisters : port.conf.inputRegIndicies = []
  connected : port.stackEnabled = true ∨
    port.conf.bitIndicies = [] ∧ port.conf.inputBitIndicies = []
  below : ∀ range ∈ port.conf.bitIndicies ++ port.conf.inputBitIndicies,
    range.start + range.count < 65536
  bits : (addresses port.conf.bitIndicies).Nodup
  inputBits : (addresses port.conf.inputBitIndicies).Nodup

theorem marks_commLost {table : ModbusTable} (binary : .BinaryQuality ∈ qualityTypes table)
    (register : Nat) : Marks (table, register) (commLost register) :=
  ⟨binary, rfl, rfl, rfl⟩

/-! ## Polls -/

theorem mem_pollRange {slave : ModbusSlave} {pollgroup : Nat} {table : ModbusTable}
    {range : ModbusReadGroup} (fits : range.Fits) {event : ModbusEvent}
    (member : event ∈ pollRange slave pollgroup table range) :
    ∃ register value, range.Has register ∧ event = polledEvent table register value := by
  rw [pollRange] at member
  split at member
  · cases member
  · cases reading : slave.read table range.start range.count with
    | none =>
        rw [reading] at member
        cases member
    | some values =>
        rw [reading] at member
        obtain ⟨⟨value, i⟩, inside, rfl⟩ := List.mem_map.mp member
        have small : i < range.count := by
          rw [← (slave.length_read _ _ _ _ reading).1]
          simpa using (List.mem_zipIdx inside).2.1
        have addresses := fits.addresses
        refine ⟨range.start + i, value, ⟨Nat.le_add_right _ _, by omega⟩, ?_⟩
        dsimp only
        rw [Nat.mod_eq_of_lt (by omega)]

/-- **A poll publishes values of configured points.** -/
theorem doPoll_configured {port : ModbusMasterPort} (fits : port.conf.Fits) {slave : ModbusSlave}
    {pollgroup : Nat} {event : ModbusEvent} (member : event ∈ port.doPoll slave pollgroup) :
    ∃ table register value, port.conf.Configured table register ∧
      event = polledEvent table register value := by
  have each : ∀ table,
      event ∈ (port.conf.groups table).flatMap (pollRange slave pollgroup table) →
      ∃ table register value, port.conf.Configured table register ∧
        event = polledEvent table register value := by
    intro table inside
    obtain ⟨range, configured, polled⟩ := List.mem_flatMap.mp inside
    obtain ⟨register, value, has, same⟩ := mem_pollRange (fits table range configured) polled
    exact ⟨table, register, value, ⟨range, configured, has⟩, same⟩
  rw [ModbusMasterPort.doPoll] at member
  split at member
  · cases member
  · simp only [List.mem_append] at member
    rcases member with ((bits | inputBits) | registers) | inputRegisters
    · exact each .bits bits
    · exact each .inputBits inputBits
    · exact each .registers registers
    · exact each .inputRegisters inputRegisters

/-! ## The loops -/

/-- A loop that ends has marked the addresses of its range, and the last address is not one of
them. -/
theorem markRange_ends {fuel : Nat} {range : ModbusReadGroup} (fits : range.Fits)
    {visited : List ModbusEvent} (ends : markRange fuel range = some visited) :
    range.start + range.count < 65536 ∧
      visited = (List.range' range.start range.count).map commLost := by
  have some_point := fits.some_point
  have limit := fits.addresses
  have start : range.start % 65536 = range.start := Nat.mod_eq_of_lt (by omega)
  rw [markRange, start, fits.bound_eq] at ends
  obtain ⟨below, same⟩ := collectBelow_ends commLost (by omega) (Nat.le_add_right _ _) ends
  rw [Nat.add_sub_cancel_left] at same
  exact ⟨below, same⟩

theorem markRange_eq {range : ModbusReadGroup} (fits : range.Fits)
    (below : range.start + range.count < 65536) :
    markRange 65536 range = some ((List.range' range.start range.count).map commLost) := by
  have start : range.start % 65536 = range.start := Nat.mod_eq_of_lt (by omega)
  rw [markRange, start, fits.bound_eq,
    collectBelow_eq commLost below (Nat.le_add_right _ _) (by omega), Nat.add_sub_cancel_left]

theorem addresses_cons (range : ModbusReadGroup) (rest : List ModbusReadGroup) :
    addresses (range :: rest) = List.range' range.start range.count ++ addresses rest := rfl

theorem markRanges_ends {fuel : Nat} {ranges : List ModbusReadGroup}
    (fits : ∀ range ∈ ranges, range.Fits) {visited : List ModbusEvent}
    (ends : markRanges fuel ranges = some visited) :
    (∀ range ∈ ranges, range.start + range.count < 65536) ∧
      visited = (addresses ranges).map commLost := by
  obtain ⟨each, marked, rfl⟩ := Option.map_eq_some_iff.mp ends
  have pairs := FuelledRecursion.mapM_eq_some_iff.mp marked
  clear ends marked
  induction pairs with
  | nil =>
      refine ⟨?_, rfl⟩
      intro range member
      cases member
  | cons one _ ih =>
      obtain ⟨below, same⟩ := markRange_ends (fits _ List.mem_cons_self) one
      obtain ⟨later, rest⟩ := ih fun range member => fits range (List.mem_cons_of_mem _ member)
      refine ⟨?_, ?_⟩
      · intro range member
        rcases List.mem_cons.mp member with rfl | member
        · exact below
        · exact later range member
      · rw [List.flatten_cons, rest, same, addresses_cons, List.map_append]

theorem markRanges_eq {ranges : List ModbusReadGroup} (fits : ∀ range ∈ ranges, range.Fits)
    (below : ∀ range ∈ ranges, range.start + range.count < 65536) :
    markRanges 65536 ranges = some ((addresses ranges).map commLost) := by
  have marked : ranges.mapM (markRange 65536) =
      some (ranges.map fun range => (List.range' range.start range.count).map commLost) := by
    rw [FuelledRecursion.mapM_eq_some_iff, List.forall₂_map_right_iff, List.forall₂_same]
    intro range member
    exact markRange_eq (fits range member) (below range member)
  rw [markRanges, marked, Option.map_some, addresses, List.map_flatMap, List.flatMap_def]

theorem mem_addresses {ranges : List ModbusReadGroup} {register : Nat} :
    register ∈ addresses ranges ↔ ∃ range ∈ ranges, range.Has register := by
  rw [addresses, List.mem_flatMap]
  refine exists_congr fun range => and_congr_right fun _ => ?_
  rw [List.mem_range'_1, ModbusReadGroup.Has]

/-! ## Giving the connection up -/

/-- The points of a configuration without registers, in the order of the loops. -/
def bitPoints (conf : ModbusPointConf) : List (ModbusTable × Nat) :=
  (addresses conf.bitIndicies).map (ModbusTable.bits, ·) ++
    (addresses conf.inputBitIndicies).map (ModbusTable.inputBits, ·)

theorem mem_bitPoints {conf : ModbusPointConf} (registers : conf.regIndicies = [])
    (inputRegisters : conf.inputRegIndicies = []) (point : ModbusTable × Nat) :
    point ∈ bitPoints conf ↔ conf.Configured point.1 point.2 := by
  obtain ⟨table, register⟩ := point
  rw [bitPoints, List.mem_append, List.mem_map, List.mem_map, ModbusPointConf.Configured]
  cases table with
  | bits => simp [ModbusPointConf.groups, mem_addresses]
  | inputBits => simp [ModbusPointConf.groups, mem_addresses]
  | registers => simp [ModbusPointConf.groups, registers]
  | inputRegisters => simp [ModbusPointConf.groups, inputRegisters]

theorem nodup_bitPoints {conf : ModbusPointConf} :
    (bitPoints conf).Nodup ↔
      (addresses conf.bitIndicies).Nodup ∧ (addresses conf.inputBitIndicies).Nodup := by
  rw [bitPoints, List.nodup_append, List.nodup_map_iff (Prod.mk_right_injective _),
    List.nodup_map_iff (Prod.mk_right_injective _), ← and_assoc, and_iff_left]
  intro first bits second inputBits same
  obtain ⟨_, _, rfl⟩ := List.mem_map.mp bits
  obtain ⟨_, _, rfl⟩ := List.mem_map.mp inputBits
  cases same

section Disconnect

variable {port : ModbusMasterPort} (fits : port.conf.Fits)

include fits in
/-- What is published when the connection is given up and the loops end. -/
theorem disconnect_ends (connected : port.stackEnabled = true) {fuel : Nat}
    {after : ModbusMasterPort} {published : List ModbusEvent}
    (ends : port.disconnect fuel = some (after, published)) :
    (∀ table, ∀ range ∈ port.conf.groups table, range.start + range.count < 65536) ∧
      published = (addresses port.conf.bitIndicies ++ addresses port.conf.inputBitIndicies ++
        addresses port.conf.regIndicies ++ addresses port.conf.inputRegIndicies).map commLost := by
  rw [ModbusMasterPort.disconnect, if_neg (by simp [connected])] at ends
  obtain ⟨bits, first, ends⟩ := Option.bind_eq_some_iff.mp ends
  obtain ⟨inputBits, second, ends⟩ := Option.bind_eq_some_iff.mp ends
  obtain ⟨registers, third, ends⟩ := Option.bind_eq_some_iff.mp ends
  obtain ⟨inputRegisters, fourth, ends⟩ := Option.bind_eq_some_iff.mp ends
  obtain ⟨-, rfl⟩ := Prod.mk.inj (Option.some.inj ends)
  obtain ⟨bitsBelow, rfl⟩ := markRanges_ends (fits .bits) first
  obtain ⟨inputBitsBelow, rfl⟩ := markRanges_ends (fits .inputBits) second
  obtain ⟨registersBelow, rfl⟩ := markRanges_ends (fits .registers) third
  obtain ⟨inputRegistersBelow, rfl⟩ := markRanges_ends (fits .inputRegisters) fourth
  refine ⟨?_, ?_⟩
  · intro table
    cases table with
    | bits => exact bitsBelow
    | inputBits => exact inputBitsBelow
    | registers => exact registersBelow
    | inputRegisters => exact inputRegistersBelow
  · rw [List.map_append, List.map_append, List.map_append]
    rfl

include fits in
/-- Marks of the configured points are marks of what a poll publishes. -/
theorem Disconnected.of_points {published : List ModbusEvent}
    {points : List (ModbusTable × Nat)} (nodup : points.Nodup)
    (configured : ∀ point, point ∈ points ↔ port.conf.Configured point.1 point.2)
    (marks : List.Forall₂ Marks points published) : Disconnected port published := by
  refine ⟨⟨points, nodup, configured, marks⟩, ?_, ?_⟩
  · intro slave pollgroup event polled
    obtain ⟨table, register, value, point, same⟩ := doPoll_configured fits polled
    obtain ⟨mark, member, marked⟩ :=
      FuelledRecursion.exists_result marks ((configured (table, register)).mpr point)
    exact ⟨table, register, value, same, mark, member, marked⟩
  · intro mark member
    obtain ⟨point, inside, marked⟩ := FuelledRecursion.exists_result marks.flip member
    refine ⟨point.1, ?_⟩
    rw [marked.index]
    exact (configured point).mp inside

include fits in
/-- A port that is connected and marks its points has no registers, and its bits are below the last
address and configured once. -/
theorem right_of_connected (connected : port.stackEnabled = true) {fuel : Nat}
    {after : ModbusMasterPort} {published : List ModbusEvent}
    (ends : port.disconnect fuel = some (after, published))
    (disconnected : Disconnected port published) : DisconnectRight port := by
  obtain ⟨points, nodup, configured, marks⟩ := disconnected.points
  obtain ⟨below, same⟩ := disconnect_ends fits connected ends
  have analog : ∀ table, .BinaryQuality ∉ qualityTypes table → port.conf.groups table = [] := by
    intro table types
    rw [List.eq_nil_iff_forall_not_mem]
    intro range member
    have first : port.conf.Configured table range.start :=
      ⟨range, member, Nat.le_refl _, Nat.lt_add_of_pos_right (fits table range member).some_point⟩
    obtain ⟨mark, inside, marked⟩ :=
      FuelledRecursion.exists_result marks ((configured (table, range.start)).mpr first)
    rw [same] at inside
    obtain ⟨index, -, rfl⟩ := List.mem_map.mp inside
    exact types marked.type
  have registers : port.conf.regIndicies = [] := analog .registers (by decide)
  have inputRegisters : port.conf.inputRegIndicies = [] := analog .inputRegisters (by decide)
  have length : points.length = (bitPoints port.conf).length := by
    rw [marks.length_eq, same, registers, inputRegisters, bitPoints]
    simp [addresses]
  have included : points ⊆ bitPoints port.conf := by
    intro point member
    exact (mem_bitPoints registers inputRegisters point).mpr ((configured point).mp member)
  have perm : points.Perm (bitPoints port.conf) :=
    (nodup.subperm included).perm_of_length_le (Nat.le_of_eq length.symm)
  obtain ⟨bits, inputBits⟩ := nodup_bitPoints.mp (perm.nodup_iff.mp nodup)
  refine ⟨registers, inputRegisters, .inl connected, ?_, bits, inputBits⟩
  intro range member
  rcases List.mem_append.mp member with bit | inputBit
  · exact below .bits range bit
  · exact below .inputBits range inputBit

include fits in
/-- A port that marks nothing has no points. -/
theorem right_of_nothing (disconnected : Disconnected port []) : DisconnectRight port := by
  obtain ⟨points, _, configured, marks⟩ := disconnected.points
  cases marks
  have empty : ∀ table, port.conf.groups table = [] := by
    intro table
    rw [List.eq_nil_iff_forall_not_mem]
    intro range member
    have first : port.conf.Configured table range.start :=
      ⟨range, member, Nat.le_refl _, Nat.lt_add_of_pos_right (fits table range member).some_point⟩
    cases (configured (table, range.start)).mpr first
  have bits : port.conf.bitIndicies = [] := empty .bits
  have inputBits : port.conf.inputBitIndicies = [] := empty .inputBits
  refine ⟨empty .registers, empty .inputRegisters, .inr ⟨bits, inputBits⟩, ?_, ?_, ?_⟩
  · intro range member
    rw [bits, inputBits] at member
    cases member
  · rw [bits]
    exact List.nodup_nil
  · rw [inputBits]
    exact List.nodup_nil

include fits in
/-- The ports that are right end their loops and mark their points. -/
theorem disconnected_of_right (right : DisconnectRight port) :
    ∃ fuel after published, port.disconnect fuel = some (after, published) ∧
      Disconnected port published := by
  have configured := mem_bitPoints right.registers right.inputRegisters
  have nodup := nodup_bitPoints.mpr ⟨right.bits, right.inputBits⟩
  cases connected : port.stackEnabled with
  | false =>
      obtain ⟨bits, inputBits⟩ : port.conf.bitIndicies = [] ∧ port.conf.inputBitIndicies = [] := by
        rcases right.connected with enabled | empty
        · rw [connected] at enabled
          cases enabled
        · exact empty
      refine ⟨0, port, [], ?_, .of_points fits nodup configured ?_⟩
      · rw [ModbusMasterPort.disconnect, if_pos connected]
      · rw [bitPoints, bits, inputBits]
        exact .nil
  | true =>
      have bitsBelow : ∀ range ∈ port.conf.bitIndicies, range.start + range.count < 65536 := by
        intro range member
        exact right.below range (List.mem_append_left _ member)
      have inputBitsBelow :
          ∀ range ∈ port.conf.inputBitIndicies, range.start + range.count < 65536 := by
        intro range member
        exact right.below range (List.mem_append_right _ member)
      refine ⟨65536, { port with stackEnabled := false },
        (addresses port.conf.bitIndicies).map commLost ++
          (addresses port.conf.inputBitIndicies).map commLost,
        ?_, .of_points fits nodup configured ?_⟩
      · have first : markRanges 65536 port.conf.bitIndicies = _ :=
          markRanges_eq (fits .bits) bitsBelow
        have second : markRanges 65536 port.conf.inputBitIndicies = _ :=
          markRanges_eq (fits .inputBits) inputBitsBelow
        rw [ModbusMasterPort.disconnect, if_neg (by simp [connected]), first, second,
          right.registers, right.inputRegisters]
        simp [markRanges]
      · rw [bitPoints]
        refine List.rel_append ?_ ?_
        · rw [List.forall₂_map_left_iff, List.forall₂_map_right_iff, List.forall₂_same]
          intro register _
          exact marks_commLost (by decide) register
        · rw [List.forall₂_map_left_iff, List.forall₂_map_right_iff, List.forall₂_same]
          intro register _
          exact marks_commLost (by decide) register

/-- **Giving the connection up.** For every configuration of 16-bit addresses, the loops end and
mark every configured point once, and nothing else, exactly when the port has no registers, is
connected unless it has no points, and no bit has the last address or is configured twice. -/
theorem disconnect_iff (port : ModbusMasterPort) (fits : port.conf.Fits) :
    (∃ fuel after published, port.disconnect fuel = some (after, published) ∧
      Disconnected port published) ↔ DisconnectRight port := by
  constructor
  · rintro ⟨fuel, after, published, ends, disconnected⟩
    cases connected : port.stackEnabled with
    | false =>
        rw [ModbusMasterPort.disconnect, if_pos connected] at ends
        obtain ⟨-, rfl⟩ := Prod.mk.inj (Option.some.inj ends)
        exact right_of_nothing fits disconnected
    | true => exact right_of_connected fits connected ends disconnected
  · exact disconnected_of_right fits

end Disconnect

theorem disconnect_fourBits :
    ∃ fuel after published,
      ModbusMasterPort.disconnect { conf := ⟨[⟨0, 3, 0, 0⟩], [⟨1, 1, 0, 0⟩], [], []⟩ } fuel =
        some (after, published) ∧
      Disconnected { conf := ⟨[⟨0, 3, 0, 0⟩], [⟨1, 1, 0, 0⟩], [], []⟩ } published := by
  refine (disconnect_iff { conf := ⟨[⟨0, 3, 0, 0⟩], [⟨1, 1, 0, 0⟩], [], []⟩ } ?_).mpr ?_
  · intro table range member
    cases table with
    | bits =>
        obtain rfl := List.mem_singleton.mp member
        exact ⟨by decide, by decide⟩
    | inputBits =>
        obtain rfl := List.mem_singleton.mp member
        exact ⟨by decide, by decide⟩
    | registers => cases member
    | inputRegisters => cases member
  · exact ⟨rfl, rfl, .inl rfl, by decide, by decide, by decide⟩

/-- A bit with the last address is marked without end, and a register is not marked with an analog
quality. -/
theorem disconnect_lastBit_register :
    (¬∃ fuel after published,
      ModbusMasterPort.disconnect { conf := { bitIndicies := [⟨65535, 1, 0, 0⟩] } } fuel =
        some (after, published) ∧
      Disconnected { conf := { bitIndicies := [⟨65535, 1, 0, 0⟩] } } published) ∧
    ¬∃ fuel after published,
      ModbusMasterPort.disconnect { conf := { regIndicies := [⟨0, 1, 0, 0⟩] } } fuel =
        some (after, published) ∧
      Disconnected { conf := { regIndicies := [⟨0, 1, 0, 0⟩] } } published := by
  have fits : ∀ start, start ≤ 65535 → (ModbusReadGroup.mk start 1 0 0).Fits := by
    intro start small
    exact ⟨Nat.one_pos, Nat.succ_le_succ small⟩
  constructor
  · rintro ⟨fuel, after, published, ends, -⟩
    have below := (disconnect_ends ?_ rfl ends).1 .bits _ List.mem_cons_self
    · revert below
      decide
    · intro table range member
      cases table with
      | bits =>
          obtain rfl := List.mem_singleton.mp member
          exact fits 65535 (by decide)
      | inputBits => cases member
      | registers => cases member
      | inputRegisters => cases member
  · rintro ⟨fuel, after, published, ends, disconnected⟩
    have right := right_of_connected ?_ rfl ends disconnected
    · cases right.registers
    · intro table range member
      cases table with
      | bits => cases member
      | inputBits => cases member
      | registers =>
          obtain rfl := List.mem_singleton.mp member
          exact fits 0 (by decide)
      | inputRegisters => cases member

end OpenDataCon.ModbusPort
